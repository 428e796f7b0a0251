import VirtioBoot.Machine.Bytes
import VirtioBoot.Machine.Console
import VirtioBoot.Virtio.Queue
import VirtioBoot.Virtio.Allocator
import VirtioBoot.Virtio.Device
import VirtioBoot.Virtio.Blk
import VirtioBoot.Virtio.InFlight
import VirtioBoot.Virtio.Ring
import VirtioBoot.Virtio.Probe
import VirtioBoot.Kernel.Elf
import VirtioBoot.Kernel.Loader
import VirtioBoot.Kernel.Segment
import VirtioBoot.Boot.MinimalBoot
import VirtioBoot.Trap.Handler
