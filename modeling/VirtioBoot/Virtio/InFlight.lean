import VirtioBoot.Virtio.Blk

/-!
# Requests in flight across `read_block` calls

`read_block_real` publishes head `0` on every attempt and, when an attempt
times out, leaves its request where it is: nothing takes an entry back from
the available ring. The next attempt, in the same `read_block` call or in a
later one, rewrites the request header and descriptors `0` and `1` and
publishes them again while the device may still hold the old entry.

This module counts what is outstanding. With `P` publications and `D`
device completions since the queue was set up, `avail.idx` is `P` and
`used.idx` and the device's cursor are `D`, all modulo `2 ^ 16`, and
`last_used_idx` is a completion count the driver has read. An attempt that
returns `Ok` has consumed a completion it had not seen when it published; an
attempt that times out may leave its publication unanswered. So just before
every publication, `(avail.idx - last_used_idx) mod 2 ^ 16` is at most the
number of earlier attempts that timed out, and is `0` when none did.

## Main results

* `Counts.interleave` — device steps keep the counting invariant `Counts`.
* `readBlock_ready` — so does every `read_block` call, from power-on on
  (`Ready`), its own `initialize` included.
* `publish_outstanding_le_timeouts` — the bound above at every publication
  of every run of `read_block` calls from power-on.
* `readBlockReal_silent` — against a device that never answers, every
  attempt times out after publishing one entry more.
* `second_publish_in_flight` — so the loader's first `read_block` publishes
  its second attempt while the first request is outstanding.
-/

namespace VirtioBoot.Virtio.InFlight

open VirtioBoot.Virtio.Queue
open VirtioBoot.Virtio.Queue.Virtqueue
open VirtioBoot.Virtio.Device
open VirtioBoot.Virtio.Blk

/-! ## Publications and timeouts in the log -/

/-- The attempts of a log that returned `Timeout`. -/
def timeouts (log : List Event) : Nat := log.count .timeout

/-- `(avail.idx - last_used_idx) mod 2 ^ 16`: the entries published and not
yet consumed by the driver. -/
def outstanding (availIdx lastUsedIdx : Nat) : Nat :=
  (availIdx + 2 ^ 16 - lastUsedIdx) % 2 ^ 16

/-- At every publication of the log, at most as many entries are
outstanding as attempts before it timed out. -/
def PublishBound (log : List Event) : Prop :=
  ∀ i a l, log[i]? = some (.publish a l) → outstanding a l ≤ timeouts (log.take i)

@[simp] theorem timeouts_append (a b : List Event) : timeouts (a ++ b) = timeouts a + timeouts b :=
  List.count_append _ _ _

@[simp] theorem timeouts_publish (a l : Nat) : timeouts [.publish a l] = 0 := rfl

theorem publishBound_nil : PublishBound [] := by
  simp [PublishBound]

theorem PublishBound.snoc {log : List Event} (h : PublishBound log) {e : Event}
    (he : ∀ a l, e = .publish a l → outstanding a l ≤ timeouts log) :
    PublishBound (log ++ [e]) := by
  intro i a l hi
  rcases Nat.lt_or_ge i log.length with hlt | hge
  · rw [List.getElem?_append_left hlt] at hi
    rw [List.take_append_of_le_length hlt.le]
    exact h i a l hi
  · rw [List.getElem?_append_right hge] at hi
    rcases hk : i - log.length with _ | k
    · rw [hk, List.getElem?_cons_zero] at hi
      obtain rfl : i = log.length := by omega
      rw [List.take_append_of_le_length le_rfl, List.take_length]
      exact he a l (Option.some_injective _ hi)
    · rw [hk, List.getElem?_cons_succ, List.getElem?_nil] at hi
      cases hi

/-- Results are logged without a publication. -/
theorem PublishBound.append_resultEvent {log : List Event} (h : PublishBound log)
    (r : Except VirtioError (List UInt8)) : PublishBound (log ++ resultEvent r) := by
  unfold resultEvent
  split
  · exact h.snoc (by simp)
  · exact h.snoc (by simp)
  · simpa using h

/-! ## The counting invariant -/

/-- The three ring indices of a handle. -/
def indices (vq : Virtqueue) : Nat × Nat × Nat := (vq.avail.idx, vq.used.idx, vq.lastUsedIdx)

/-- What the counting invariant reads of a state. -/
def counters (s : Sys) : Bool × Nat × Nat × Nat × List Event × Option (Nat × Nat × Nat) :=
  (s.blk.initialized, s.devAvail, s.completed, s.published, s.log, s.blk.virtqueue.map indices)

/-- The counting invariant, with `slack` publications of the running
attempt allowed to be unanswered: `avail.idx`, `used.idx` and the device's
cursor count publications and completions modulo `2 ^ 16`, and
`last_used_idx` is a completion count `seen` the driver has read, with
every publication but `timeouts + slack` of them completed by then. -/
structure Counts (slack : Nat) (s : Sys) : Prop where
  initialized : s.blk.initialized = true
  devAvail_eq : s.devAvail = s.completed % 2 ^ 16
  completed_le : s.completed ≤ s.published
  queue : ∃ vq, s.blk.virtqueue = some vq ∧ vq.avail.idx = s.published % 2 ^ 16 ∧
    vq.used.idx = s.completed % 2 ^ 16 ∧ ∃ seen ≤ s.completed,
      vq.lastUsedIdx = seen % 2 ^ 16 ∧ s.published ≤ seen + timeouts s.log + slack
  bound : PublishBound s.log

/-- The driver has read `used.idx` as `seen % 2 ^ 16`, at a moment when
every publication but `timeouts` of them had been completed. -/
def Seen (seen : Nat) (s : Sys) : Prop :=
  seen ≤ s.completed ∧ s.published ≤ seen + timeouts s.log

section Counts

variable {b seen : Nat} {s s' : Sys}

theorem Counts.mono (h : Counts b s) {b' : Nat} (hb : b ≤ b') : Counts b' s := by
  obtain ⟨vq, hvq, ha, hu, seen, hseen, hlast, hP⟩ := h.queue
  exact { h with queue := ⟨vq, hvq, ha, hu, seen, hseen, hlast, by omega⟩ }

/-- The invariant depends on the counters only. -/
theorem Counts.of_counters (h : Counts b s) (he : counters s' = counters s) : Counts b s' := by
  simp only [counters, Prod.mk.injEq] at he
  obtain ⟨hi, hd, hc, hp, hl, hv⟩ := he
  obtain ⟨vq, hvq, ha, hu, seen, hseen, hlast, hP⟩ := h.queue
  rw [hvq, Option.map_some'] at hv
  obtain ⟨vq', hvq', hind⟩ := Option.map_eq_some'.1 hv
  simp only [indices, Prod.mk.injEq] at hind
  exact ⟨hi ▸ h.initialized, hd ▸ hc ▸ h.devAvail_eq, hc ▸ hp ▸ h.completed_le,
    ⟨vq', hvq', by rw [hind.1, ha, hp], by rw [hind.2.1, hu, hc], seen, hc ▸ hseen,
      by rw [hind.2.2, hlast], hp ▸ hl ▸ hP⟩, hl ▸ h.bound⟩

theorem Seen.of_counters (h : Seen seen s) (he : counters s' = counters s) : Seen seen s' := by
  simp only [counters, Prod.mk.injEq] at he
  obtain ⟨-, -, hc, hp, hl, -⟩ := he
  exact ⟨hc ▸ h.1, hp ▸ hl ▸ h.2⟩

/-- A device step completes an entry only while one is unconsumed, so
completions never overtake publications. -/
theorem Counts.device (h : Counts b s) (disk : Disk) (c : Completion) :
    Counts b (deviceStep disk s c) := by
  obtain ⟨vq, hvq₀, ha, hu, seen, hseen, hlast, hP⟩ := h.queue
  rcases deviceStep_cases disk s c with heq | ⟨vq', e, hvq, -, hen, hblk, hdev, hcomp, hpub, hlog⟩
  · rwa [heq]
  obtain rfl : vq = vq' := Option.some_injective _ (hvq₀.symm.trans hvq)
  have hle := h.completed_le
  have hne : s.completed ≠ s.published := fun heq => hen (by rw [h.devAvail_eq, ha, heq])
  refine ⟨by rw [hblk]; exact h.initialized, by rw [hdev, hcomp, h.devAvail_eq]; omega,
    by omega, ⟨pushUsed vq e, by rw [hblk], by simp [ha, hpub], ?_, seen, by omega,
      by simpa using hlast, by rw [hpub, hlog]; omega⟩, by rw [hlog]; exact h.bound⟩
  rw [pushUsed_used_idx, hu, hcomp]
  omega

theorem Seen.device (h : Seen seen s) (disk : Disk) (c : Completion) :
    Seen seen (deviceStep disk s c) := by
  rcases deviceStep_cases disk s c with heq | ⟨-, -, -, -, -, -, -, hcomp, hpub, hlog⟩
  · rwa [heq]
  · exact ⟨by rw [hcomp]; exact h.1.trans (Nat.le_succ _), by rw [hpub, hlog]; exact h.2⟩

theorem Counts.interleave (h : Counts b s) (env : Env) : Counts b (s.interleave env) := by
  suffices ∀ (cs : List Completion) (s : Sys), Counts b s →
      Counts b (cs.foldl (deviceStep env.disk) s) from (this _ s h).of_counters rfl
  intro cs
  induction cs with
  | nil => exact fun _ h => h
  | cons c cs ih => exact fun s h => ih _ (h.device env.disk c)

theorem Seen.interleave (h : Seen seen s) (env : Env) : Seen seen (s.interleave env) := by
  suffices ∀ (cs : List Completion) (s : Sys), Seen seen s →
      Seen seen (cs.foldl (deviceStep env.disk) s) from (this _ s h).of_counters rfl
  intro cs
  induction cs with
  | nil => exact fun _ h => h
  | cons c cs ih => exact fun s h => ih _ (h.device env.disk c)

/-! The driver's accesses other than the publication and `last_used_idx`
keep the counters of the state after the device's steps. -/

theorem Counts.storeRam (h : Counts b s) (env : Env) (addr w v : Nat) :
    Counts b (s.storeRam env addr w v) :=
  (h.interleave env).of_counters rfl

theorem Counts.readIsr (h : Counts b s) (env : Env) : Counts b (s.readIsr env).1 :=
  (h.interleave env).of_counters rfl

theorem Counts.notify (h : Counts b s) (env : Env) : Counts b (s.notify env) :=
  (h.interleave env).of_counters rfl

/-- Setting `last_used_idx` to a count read while every publication but
the timed-out ones had been completed leaves no slack. -/
theorem Counts.setLastUsed (h : Counts b s) (hs : Seen seen s) {v : Nat}
    (hv : v = seen % 2 ^ 16) : Counts 0 (s.setLastUsed v) := by
  obtain ⟨vq, hvq, ha, hu, -⟩ := h.queue
  have heq : s.setLastUsed v =
      { s with blk := { s.blk with virtqueue := some { vq with lastUsedIdx := v } } } := by
    simp [Sys.setLastUsed, Sys.onVq, hvq]
  rw [heq]
  exact ⟨h.initialized, h.devAvail_eq, h.completed_le,
    ⟨_, rfl, ha, hu, seen, hs.1, hv, by simpa using hs.2⟩, h.bound⟩

/-- A publication is logged with at most `timeouts` entries outstanding, and
leaves one unanswered publication. -/
theorem Counts.publish (h : Counts 0 s) (env : Env) (head : Nat) :
    Counts 1 (s.publish env head) := by
  have h₁ := h.interleave env
  obtain ⟨vq, hvq, ha, hu, seen, hseen, hlast, hP⟩ := h₁.queue
  have hle := h₁.completed_le
  have heq : s.publish env head = { s.interleave env with
      blk := { (s.interleave env).blk with virtqueue := some (vq.addToAvail head).1 }
      published := (s.interleave env).published + 1
      log := (s.interleave env).log ++ [.publish vq.avail.idx vq.lastUsedIdx] } := by
    simp only [Sys.publish, hvq]
  rw [heq]
  refine ⟨h₁.initialized, h₁.devAvail_eq, Nat.le_succ_of_le hle,
    ⟨_, rfl, by simp only [addToAvail_idx, ha]; omega, hu, seen, hseen, hlast, by simp; omega⟩,
    h₁.bound.snoc fun a l he => ?_⟩
  cases he
  rw [outstanding, ha, hlast]
  omega

/-- Logging an attempt's result turns the slack of a timeout into a counted
timeout. -/
theorem Counts.logResult {r : Except VirtioError (List UInt8)}
    (h : Counts (timeouts (resultEvent r)) s) : Counts 0 { s with log := s.log ++ resultEvent r } := by
  obtain ⟨vq, hvq, ha, hu, seen, hseen, hlast, hP⟩ := h.queue
  exact ⟨h.initialized, h.devAvail_eq, h.completed_le,
    ⟨vq, hvq, ha, hu, seen, hseen, hlast, by simp only [timeouts_append]; omega⟩,
    h.bound.append_resultEvent r⟩

end Counts

/-! ## The read path keeps the invariant -/

section ReadPath

variable (env : Env) (head : Nat)

/-- A descriptor write keeps the invariant. -/
theorem Counts.setDescriptor {b : Nat} {s : Sys} (h : Counts b s) (i a l f n : Nat) :
    Counts b (s.access env (·.setDescriptor i a l f n) (.ok ())).1 := by
  refine (h.interleave env).of_counters ?_
  simp only [Sys.access, Sys.onVq]
  split
  · obtain ⟨ha, hu, hl⟩ := setDescriptor_rings ‹Virtqueue› i a l f n
    simp [counters, indices, ha, hu, hl, *]
  · rfl

/-- The used-ring scan ends in a state with the invariant it started with,
either without a match or with `last_used_idx` set to the index read. -/
theorem scan_spec (current last seen : Nat) :
    ∀ k i s, Counts 1 s → Seen seen s →
      ∃ s', Counts 1 s' ∧ Seen seen s' ∧
        (scan env head current last k i s = (s', none) ∨
          ∃ buf, scan env head current last k i s = (s'.setLastUsed current, some buf))
  | 0, _, s, hc, hs => ⟨s, hc, hs, .inl rfl⟩
  | k + 1, i, s, hc, hs => by
    obtain ⟨vq, hvq, -⟩ := (hc.interleave env).queue
    rw [scan, Sys.access, Sys.onVq_read _ hvq]
    dsimp only
    split_ifs
    · exact ⟨_, ((hc.interleave env).interleave env).of_counters rfl,
        ((hs.interleave env).interleave env).of_counters rfl, .inr ⟨_, rfl⟩⟩
    · exact scan_spec current last seen k (i + 1) _ (hc.interleave env) (hs.interleave env)

/-- The used-index retries: an answer is returned only with no slack left. -/
theorem ringRetry_spec : ∀ fuel s, Counts 1 s →
    Counts 1 (ringRetry env head fuel s).1 ∧
      ((ringRetry env head fuel s).2.isSome → Counts 0 (ringRetry env head fuel s).1)
  | 0, s, h => ⟨h, by simp [ringRetry]⟩
  | fuel + 1, s, h => by
    have h₁ := h.interleave env
    obtain ⟨vq, hvq, ha, hu, seen, hseen, hlast, hP⟩ := h₁.queue
    rw [ringRetry, Sys.access, Sys.onVq_read _ hvq]
    simp only [hvq, Option.map_some', Option.getD_some]
    split_ifs with hne
    · have hs : Seen (s.interleave env).completed (s.interleave env) := by
        refine ⟨le_rfl, ?_⟩
        rw [hu, hlast] at hne
        have : seen ≠ (s.interleave env).completed := fun h => hne (by rw [h])
        omega
      obtain ⟨s', hc', hs', hscan | ⟨buf, hscan⟩⟩ :=
        scan_spec env head vq.used.idx vq.lastUsedIdx _ _ 0 _ h₁ hs
      · rw [hscan]
        exact ⟨(hc'.setLastUsed hs' hu).mono (Nat.zero_le _), by simp⟩
      · rw [hscan]
        exact ⟨(hc'.setLastUsed hs' hu).mono (Nat.zero_le _), fun _ => hc'.setLastUsed hs' hu⟩
    · exact ringRetry_spec fuel _ h₁

/-- The polling loop returns `Ok` with no slack, or `Timeout` with one. -/
theorem pollLoop_spec : ∀ fuel attempt validAttempts s, Counts 1 s →
    Counts (timeouts (resultEvent (pollLoop env head fuel attempt validAttempts s).2))
      (pollLoop env head fuel attempt validAttempts s).1
  | 0, _, _, s, h => h
  | fuel + 1, attempt, validAttempts, s, h => by
    have h₁ := h.readIsr env
    obtain ⟨hr, hok⟩ := ringRetry_spec env head 10 _ (h₁.readIsr env)
    simp only [pollLoop]
    split_ifs
    · split <;> rename_i heq <;> rw [heq] at hr hok
      · exact hok rfl
      · exact hr
    · split <;> rename_i heq <;> rw [heq] at hr hok
      · exact hok rfl
      · exact hr
    · split <;> rename_i heq <;> rw [heq] at hr hok
      · exact hok rfl
      · exact pollLoop_spec fuel _ _ _ hr
    · exact h₁
    · exact pollLoop_spec fuel _ _ _ h₁

/-- One attempt: an error before the publication leaves no slack. -/
theorem readBlockRealBody_counts (blockId : Nat) {s : Sys} (h : Counts 0 s) :
    Counts (timeouts (resultEvent (readBlockRealBody env blockId s).2))
      (readBlockRealBody env blockId s).1 := by
  obtain ⟨vq, hvq, -⟩ := h.queue
  have h₃ := ((h.storeRam env REQ_ADDR 4 VIRTIO_BLK_T_IN).storeRam env (REQ_ADDR + 4) 4 0).storeRam
    env (REQ_ADDR + 8) 8 blockId
  simp only [readBlockRealBody, hvq]
  split
  · exact (h₃.setDescriptor env ..).mono (Nat.zero_le _)
  · split
    · exact ((h₃.setDescriptor env ..).setDescriptor env ..).mono (Nat.zero_le _)
    · exact pollLoop_spec env 0 5000 0 0 _
        ((((h₃.setDescriptor env ..).setDescriptor env ..).publish env 0).notify env)

/-- An attempt with its logged result keeps the invariant. -/
theorem readBlockReal_counts (blockId : Nat) {s : Sys} (h : Counts 0 s) :
    Counts 0 (readBlockReal env blockId s).1 :=
  (readBlockRealBody_counts env blockId h).logResult

/-- The retry loop of `read_block` keeps the invariant. -/
theorem retryLoop_counts (blockId : Nat) :
    ∀ fuel retryCount s, Counts 0 s → Counts 0 (retryLoop env blockId fuel retryCount s).1
  | 0, _, _, h => h
  | fuel + 1, retryCount, s, h => by
    have hr := readBlockReal_counts env blockId h
    simp only [retryLoop]
    split <;> rename_i heq <;> rw [heq] at hr
    · exact hr.of_counters rfl
    · split_ifs
      · exact hr
      · exact retryLoop_counts blockId fuel _ _ hr

end ReadPath

/-! ## Power-on and initialisation

Until the first notify the device takes no step, so `initialize` changes
nothing the invariant counts: it ends either with the invariant (a fresh
queue, all indices at zero) or back in a power-on state.
-/

/-- Nothing has been notified, published or completed, and a queue handle,
if there is one, has all indices at zero. -/
structure Calm (s : Sys) : Prop where
  not_notified : s.notified = false
  devAvail_eq : s.devAvail = 0
  published_eq : s.published = 0
  completed_eq : s.completed = 0
  log_eq : s.log = []
  queue : ∀ vq, s.blk.virtqueue = some vq → indices vq = (0, 0, 0)

/-- A system at power-on: calm and not initialised. -/
structure PowerOn (s : Sys) : Prop where
  calm : Calm s
  not_initialized : s.blk.initialized = false

/-- The states of a run of `read_block` calls: power-on, or the invariant. -/
def Ready (s : Sys) : Prop := Counts 0 s ∨ PowerOn s

/-- `s'` is calm and keeps the handle, the init flag and the base of `s`. -/
structure CalmFrom (s s' : Sys) : Prop where
  calm : Calm s'
  initialized : s'.blk.initialized = s.blk.initialized
  virtqueue : s'.blk.virtqueue = s.blk.virtqueue
  baseAddr : s'.blk.baseAddr = s.blk.baseAddr

/-- Before the first notify the device takes no step. -/
theorem interleave_of_not_notified (env : Env) {s : Sys} (h : s.notified = false) :
    s.interleave env = { s with tick := s.tick + 1 } := by
  have hfix : ∀ c, deviceStep env.disk s c = s := fun c => by
    rcases deviceStep_cases env.disk s c with heq | ⟨-, -, -, hn, -⟩
    · exact heq
    · rw [h] at hn; cases hn
  simp only [Sys.interleave, List.foldl_fixed' hfix]

section Init

variable (env : Env) {s s₁ s₂ : Sys}

theorem CalmFrom.trans (h₁ : CalmFrom s s₁) (h₂ : CalmFrom s₁ s₂) : CalmFrom s s₂ :=
  ⟨h₂.calm, h₂.initialized.trans h₁.initialized, h₂.virtqueue.trans h₁.virtqueue,
    h₂.baseAddr.trans h₁.baseAddr⟩

theorem Calm.interleave (h : Calm s) : CalmFrom s (s.interleave env) := by
  rw [interleave_of_not_notified env h.not_notified]
  exact ⟨⟨h.1, h.2, h.3, h.4, h.5, h.6⟩, rfl, rfl, rfl⟩

theorem Calm.writeReg (h : Calm s) (off v : Nat) : CalmFrom s (s.writeReg env off v) :=
  let ⟨h', e₁, e₂, e₃⟩ := h.interleave env
  ⟨⟨h'.1, h'.2, h'.3, h'.4, h'.5, h'.6⟩, e₁, e₂, e₃⟩

theorem Calm.readReg (h : Calm s) (off : Nat) : CalmFrom s (s.readReg env off).1 :=
  h.interleave env

theorem Calm.selectQueue (h : Calm s) (q : Nat) : CalmFrom s (selectQueue env s q) :=
  let h' : Calm { s with blk := { s.blk with currentQueueSel := q } } := ⟨h.1, h.2, h.3, h.4, h.5, h.6⟩
  (⟨h', rfl, rfl, rfl⟩ : CalmFrom s _).trans (h'.writeReg env _ _)

theorem Calm.featureNegotiationLegacy (h : Calm s) : CalmFrom s (featureNegotiationLegacy env s) :=
  let h₁ := h.writeReg env VIRTIO_DRIVER_FEATURES 0
  let h₂ := h₁.trans (h₁.calm.readReg env VIRTIO_STATUS)
  let h₃ := fun v => h₂.trans (h₂.calm.writeReg env VIRTIO_STATUS v)
  (h₃ _).trans ((h₃ _).calm.readReg env VIRTIO_STATUS)

theorem Calm.readConfigurationSimple (h : Calm s) : CalmFrom s (readConfigurationSimple env s) :=
  let h₁ := h.readReg env 0x100
  let h₂ := h₁.trans (h₁.calm.readReg env 0x104)
  ⟨⟨h₂.calm.1, h₂.calm.2, h₂.calm.3, h₂.calm.4, h₂.calm.5, h₂.calm.6⟩, h₂.initialized, h₂.virtqueue,
    h₂.baseAddr⟩

/-- The queue set-up creates a handle with all indices at zero. -/
theorem Calm.initializeVirtqueueLegacy (h : Calm s) :
    Calm (initializeVirtqueueLegacy env s).1 ∧
      (initializeVirtqueueLegacy env s).1.blk.initialized = s.blk.initialized ∧
      (initializeVirtqueueLegacy env s).1.blk.baseAddr = s.blk.baseAddr ∧
      ((initializeVirtqueueLegacy env s).2 = .ok () →
        ∃ vq, (initializeVirtqueueLegacy env s).1.blk.virtqueue = some vq) := by
  have h₁ := h.selectQueue env 0
  have h₂ := h₁.trans (h₁.calm.writeReg env VIRTIO_QUEUE_NUM 2)
  have h₃ := h₂.trans (h₂.calm.writeReg env VIRTIO_QUEUE_SEL 0)
  have h₄ := h₃.trans (h₃.calm.writeReg env VIRTIO_QUEUE_PFN 0x80070)
  have h₅ := h₄.trans (h₄.calm.selectQueue env 0)
  have h₆ := h₅.trans (h₅.calm.readReg env VIRTIO_QUEUE_PFN)
  have h₇ := h₆.trans (h₆.calm.writeReg env VIRTIO_QUEUE_SEL 0)
  have h₈ := h₇.trans (h₇.calm.readReg env VIRTIO_QUEUE_PFN)
  unfold Blk.initializeVirtqueueLegacy
  dsimp only
  rw [show allocateQueueMemory 2 = .ok (0x80070000, 0x80070020, 0x80071000) from rfl]
  dsimp only
  split
  · rename_i vq hnew
    obtain ⟨-, -, -, hl, ha, hu, -⟩ := new_eq hnew
    refine ⟨⟨h₈.calm.1, h₈.calm.2, h₈.calm.3, h₈.calm.4, h₈.calm.5, ?_⟩, h₈.initialized,
      h₈.baseAddr, fun _ => ⟨vq, rfl⟩⟩
    rintro _ ⟨⟩
    simp [indices, ha, hu, hl]
  · exact ⟨h₈.calm, h₈.initialized, h₈.baseAddr, fun h => by cases h⟩

/-- An initialised calm state with a handle satisfies the invariant. -/
theorem Calm.counts (h : Calm s) (hi : s.blk.initialized = true)
    (hv : ∃ vq, s.blk.virtqueue = some vq) : Counts 0 s := by
  obtain ⟨vq, hvq⟩ := hv
  have hind := h.queue vq hvq
  simp only [indices, Prod.mk.injEq] at hind
  refine ⟨hi, by rw [h.devAvail_eq, h.completed_eq, Nat.zero_mod],
    by rw [h.completed_eq]; exact Nat.zero_le _, ⟨vq, hvq, ?_, ?_, 0, Nat.zero_le _, ?_, ?_⟩,
    by rw [h.log_eq]; exact publishBound_nil⟩
  · rw [hind.1, h.published_eq, Nat.zero_mod]
  · rw [hind.2.1, h.completed_eq, Nat.zero_mod]
  · rw [hind.2.2, Nat.zero_mod]
  · rw [h.published_eq]; exact Nat.zero_le _

/-- **`initialize` from power-on**, step by step: it keeps the system calm
and the handle's base, and it succeeds exactly with an initialised handle
that has a queue. -/
theorem PowerOn.initializeDevice_calm (h : PowerOn s) :
    Calm (initializeDevice env s).1 ∧ (initializeDevice env s).1.blk.baseAddr = s.blk.baseAddr ∧
      ((initializeDevice env s).2 = .ok () → (initializeDevice env s).1.blk.initialized = true ∧
        ∃ vq, (initializeDevice env s).1.blk.virtqueue = some vq) ∧
      ((initializeDevice env s).2 ≠ .ok () → (initializeDevice env s).1.blk.initialized = false) := by
  have h₁ := h.calm.writeReg env VIRTIO_STATUS 0
  have h₂ := h₁.trans (h₁.calm.writeReg env VIRTIO_STATUS VIRTIO_STATUS_ACKNOWLEDGE)
  have h₃ := h₂.trans (h₂.calm.writeReg env VIRTIO_STATUS
    (VIRTIO_STATUS_ACKNOWLEDGE ||| VIRTIO_STATUS_DRIVER))
  have h₄ := h₃.trans (h₃.calm.readReg env VIRTIO_STATUS)
  have h₅ := h₄.trans (h₄.calm.featureNegotiationLegacy env)
  have h₆ := h₅.trans (h₅.calm.writeReg env VIRTIO_GUEST_PAGE_SIZE 4096)
  have h₇ := h₆.trans (h₆.calm.readConfigurationSimple env)
  have h₈ := h₇.trans (h₇.calm.writeReg env VIRTIO_QUEUE_SEL 0)
  have hoff := h₈.initialized.trans h.not_initialized
  obtain ⟨h₉, e₉, b₉, hq₉⟩ := h₈.calm.initializeVirtqueueLegacy env
  simp only [Blk.initializeDevice, h.not_initialized, Bool.false_eq_true, if_false]
  split_ifs
  · exact ⟨h₄.calm, h₄.baseAddr, (fun h => by cases h),
      fun _ => h₄.initialized.trans h.not_initialized⟩
  · split <;> rename_i heq <;> rw [heq] at h₉ e₉ b₉ hq₉
    · exact ⟨h₉, b₉.trans h₈.baseAddr, (fun h => by cases h), fun _ => e₉.trans hoff⟩
    · have h₁₀ := h₉.writeReg env VIRTIO_STATUS VIRTIO_STATUS_DRIVER_OK
      have h₁₁ := h₁₀.trans (h₁₀.calm.readReg env VIRTIO_STATUS)
      have hbase := h₁₁.baseAddr.trans (b₉.trans h₈.baseAddr)
      split_ifs
      · exact ⟨h₁₁.calm, hbase, (fun h => by cases h),
          fun _ => h₁₁.initialized.trans (e₉.trans hoff)⟩
      · obtain ⟨vq, hvq⟩ := hq₉ rfl
        have hc := h₁₁.calm
        exact ⟨⟨hc.1, hc.2, hc.3, hc.4, hc.5, hc.6⟩, hbase,
          fun _ => ⟨rfl, vq, h₁₁.virtqueue.trans hvq⟩, fun h => absurd rfl h⟩

/-- **`initialize` from power-on** ends with the invariant when it succeeds,
and in a power-on state when it fails. -/
theorem PowerOn.initializeDevice (h : PowerOn s) :
    Ready (initializeDevice env s).1 ∧
      ((initializeDevice env s).2 = .ok () → Counts 0 (initializeDevice env s).1) := by
  obtain ⟨hc, -, hok, hfail⟩ := h.initializeDevice_calm env
  by_cases hr : (Blk.initializeDevice env s).2 = .ok ()
  · have hcounts := hc.counts (hok hr).1 (hok hr).2
    exact ⟨.inl hcounts, fun _ => hcounts⟩
  · exact ⟨.inr ⟨hc, hfail hr⟩, fun h => absurd h hr⟩

end Init

/-! ## Runs of `read_block` calls -/

/-- `read_block` keeps a run in its states, its own `initialize` included. -/
theorem readBlock_ready (env : Env) (blockId bufLen : Nat) {s : Sys} (h : Ready s) :
    Ready (readBlock env blockId bufLen s).1 := by
  have hinit : Ready (if ¬ s.blk.initialized then initializeDevice env s else (s, .ok ())).1 ∧
      ((if ¬ s.blk.initialized then initializeDevice env s else (s, .ok ())).2 = .ok () →
        Counts 0 (if ¬ s.blk.initialized then initializeDevice env s else (s, .ok ())).1) := by
    rcases h with hc | hp
    · rw [if_neg (by simp [hc.initialized])]
      exact ⟨.inl hc, fun _ => hc⟩
    · rw [if_pos (by simp [hp.not_initialized])]
      exact hp.initializeDevice env
  simp only [readBlock]
  generalize (if ¬ s.blk.initialized then initializeDevice env s else (s, .ok ())) = p at hinit ⊢
  obtain ⟨hr, hok⟩ := hinit
  obtain ⟨s', _ | _⟩ := p
  · exact hr
  · have hc := hok rfl
    dsimp only at hc ⊢
    split_ifs
    · exact .inl hc
    · exact .inl hc
    · exact .inl (retryLoop_counts env blockId 100 0 _ hc)

/-- A run of `read_block` calls, one per request `(block_id, buffer length)`. -/
def readBlocks (env : Env) : List (Nat × Nat) → Sys → Sys
  | [], s => s
  | (blockId, bufLen) :: reqs, s => readBlocks env reqs (readBlock env blockId bufLen s).1

theorem readBlocks_ready (env : Env) :
    ∀ (reqs : List (Nat × Nat)) (s : Sys), Ready s → Ready (readBlocks env reqs s)
  | [], _, h => h
  | (blockId, bufLen) :: reqs, _, h => readBlocks_ready env reqs _ (readBlock_ready env blockId bufLen h)

theorem Ready.publishBound {s : Sys} (h : Ready s) : PublishBound s.log := by
  rcases h with hc | hp
  · exact hc.bound
  · rw [hp.calm.log_eq]; exact publishBound_nil

/-- **Outstanding requests at each publication.** In every run of
`read_block` calls from power-on, against every device and interleaving,
just before each `add_to_avail` of `read_block_real` the entries published
and not yet consumed, `(avail.idx - last_used_idx) mod 2 ^ 16`, are at most
the attempts before it that returned `Timeout`. -/
theorem publish_outstanding_le_timeouts (env : Env) {s : Sys} (h : PowerOn s)
    (reqs : List (Nat × Nat)) (i availIdx lastUsedIdx : Nat)
    (hi : (readBlocks env reqs s).log[i]? = some (.publish availIdx lastUsedIdx)) :
    (availIdx + 2 ^ 16 - lastUsedIdx) % 2 ^ 16 ≤
      ((readBlocks env reqs s).log.take i).count .timeout :=
  (readBlocks_ready env reqs s (.inr h)).publishBound i availIdx lastUsedIdx hi

/-- `powerOnSys` is a power-on state. -/
theorem powerOnSys_powerOn : PowerOn powerOnSys :=
  ⟨⟨rfl, rfl, rfl, rfl, rfl, fun _ h => by cases h⟩, rfl⟩

set_option maxRecDepth 10000 in
/-- The loader's first request against `ioErrorDevice` publishes once, with
nothing outstanding. -/
theorem publish_outstanding_first_read :
    PowerOn powerOnSys ∧
      (readBlocks ioErrorDevice [(0, 512)] powerOnSys).log[0]? = some (.publish 0 0) ∧
      (0 + 2 ^ 16 - 0) % 2 ^ 16 ≤
        ((readBlocks ioErrorDevice [(0, 512)] powerOnSys).log.take 0).count .timeout :=
  ⟨powerOnSys_powerOn, rfl,
    publish_outstanding_le_timeouts ioErrorDevice powerOnSys_powerOn [(0, 512)] 0 0 0 rfl⟩

/-! ## A device that never answers -/

section Silent

variable {env : Env} (hsil : ∀ t, env.sched t = [])
include hsil

theorem interleave_silent (s : Sys) : s.interleave env = { s with tick := s.tick + 1 } := by
  simp only [Sys.interleave, hsil, List.foldl_nil]

/-- With no device step, the ISR stays clear and polling times out. -/
theorem pollLoop_silent (head : Nat) : ∀ fuel attempt s, s.isr = 0 →
    ∃ t, pollLoop env head fuel attempt 0 s = ({ s with tick := t, isr := 0 }, .error .Timeout)
  | 0, _, s, hisr => ⟨s.tick, by rw [pollLoop, ← hisr]⟩
  | fuel + 1, attempt, s, hisr => by
    simp only [pollLoop, Sys.readIsr, interleave_silent hsil, hisr, Nat.zero_mod, ne_eq,
      not_true_eq_false, if_false, and_true]
    split_ifs
    · exact ⟨_, rfl⟩
    · exact pollLoop_silent head fuel (attempt + 1) _ rfl

theorem pollLoop_silent_fields (head fuel attempt : Nat) {s : Sys} (hisr : s.isr = 0) :
    (pollLoop env head fuel attempt 0 s).2 = .error .Timeout ∧
      (pollLoop env head fuel attempt 0 s).1.log = s.log ∧
      (pollLoop env head fuel attempt 0 s).1.isr = 0 ∧
      (pollLoop env head fuel attempt 0 s).1.blk = s.blk := by
  obtain ⟨t, ht⟩ := pollLoop_silent hsil head fuel attempt s hisr
  rw [ht]
  exact ⟨rfl, rfl, rfl, rfl⟩

/-- **Against a device that never answers**, every attempt publishes one
entry more, with `last_used_idx` unchanged, and times out. -/
theorem readBlockReal_silent (blockId : Nat) {s : Sys} {vq : Virtqueue}
    (hvq : s.blk.virtqueue = some vq) (hQ : 2 ≤ vq.queueSize) (hisr : s.isr = 0) :
    (readBlockReal env blockId s).2 = .error .Timeout ∧
      (readBlockReal env blockId s).1.log =
        s.log ++ [.publish vq.avail.idx vq.lastUsedIdx, .timeout] ∧
      (readBlockReal env blockId s).1.isr = 0 ∧
      ∃ vq', (readBlockReal env blockId s).1.blk.virtqueue = some vq' ∧ 2 ≤ vq'.queueSize ∧
        vq'.avail.idx = (vq.avail.idx + 1) % 2 ^ 16 ∧ vq'.lastUsedIdx = vq.lastUsedIdx := by
  have h0 : 0 < vq.queueSize := by omega
  have h1 : 1 < vq.queueSize := hQ
  simp only [readBlockReal, readBlockRealBody, hvq, Sys.storeRam, Sys.access, Sys.onVq,
    Sys.publish, Sys.notify, interleave_silent hsil, setDescriptor_of_lt, h0, h1, zero_add,
    pollLoop_silent_fields hsil, hisr, resultEvent, List.append_assoc, List.singleton_append]
  exact ⟨trivial, trivial, trivial, _, rfl, hQ, rfl, rfl⟩

end Silent

/-- A device over `diskOf7F` that never takes a step. -/
def silentDevice : Env :=
  ⟨diskOf7F, fun _ => [], fun _ v => v, zeroRings⟩

/-- After `initialize` from power-on, the loader's first `read_block(0, _)`
against a device that has not answered yet: its first attempt publishes at
`avail.idx = last_used_idx = 0` and times out, and its second attempt
publishes at `avail.idx = 1` while `last_used_idx` is still `0`. The call
then goes on with its third attempt. -/
theorem second_publish_in_flight :
    ∃ s, readBlock silentDevice 0 512 (initializeDevice silentDevice powerOnSys).1 =
        retryLoop silentDevice 0 98 2 s ∧
      s.log = [.publish 0 0, .timeout, .publish 1 0, .timeout] := by
  have hsil : ∀ t, silentDevice.sched t = [] := fun _ => rfl
  obtain ⟨vq, hvq, hQ, ha, hl⟩ : ∃ vq, (initializeDevice silentDevice powerOnSys).1.blk.virtqueue =
      some vq ∧ 2 ≤ vq.queueSize ∧ vq.avail.idx = 0 ∧ vq.lastUsedIdx = 0 :=
    ⟨_, rfl, le_rfl, rfl, rfl⟩
  obtain ⟨r₁, log₁, isr₁, vq₂, hvq₂, hQ₂, ha₂, hl₂⟩ := readBlockReal_silent hsil 0 hvq hQ rfl
  obtain ⟨r₂, log₂, -⟩ := readBlockReal_silent hsil 0 hvq₂ hQ₂ isr₁
  refine ⟨_, ?_, by rw [log₂, log₁, ha₂, hl₂, ha, hl]; rfl⟩
  have hinit : (initializeDevice silentDevice powerOnSys).1.blk.initialized = true := rfl
  have hcap : (initializeDevice silentDevice powerOnSys).1.blk.capacity = 2048 := rfl
  simp only [readBlock, hinit, hcap, not_true_eq_false, ne_eq, ↓reduceIte]
  rw [if_neg (by decide), retryLoop_of_error _ _ _ _ r₁ (by decide),
    retryLoop_of_error _ _ _ _ r₂ (by decide)]

end VirtioBoot.Virtio.InFlight
