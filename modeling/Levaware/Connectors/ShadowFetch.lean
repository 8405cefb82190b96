import Levaware.Connectors.AwsConnector

set_option autoImplicit false

/-! # Fetching the shadow, session by session

A session is what lies between two `DISCONNECTED`s. The connector requests the shadow at most once
in its life (`awsRun_shadowRequests`), at the first `READY` that it takes in `AWS_STATE_CONNECTED`.
So every session with a `READY` fetches the shadow once iff there is only one such session and one
of its `READY`s is taken in that state (`oneFetch_iff`). -/

namespace Levaware

open AwsControlBlk History

/-! ## Sessions and their fetches -/

/-- The `aws_shadow_request` calls made while the events `s` are processed, after the events
    `pre`. -/
def fetches (pre s : List EventCode) : Nat :=
  (awsRun (pre ++ s)).shadowRequests - (awsRun pre).shadowRequests

/-- Every session with a `READY` requests the shadow exactly once, and the others never. -/
def OneFetch (events : List EventCode) : Prop :=
  ∀ pre s post, Session .disconnected events pre s post →
    fetches pre s = if .ready ∈ s then 1 else 0

/-- There are `READY`s on both sides of a `DISCONNECTED`. -/
def ReadyAgain (events : List EventCode) : Prop :=
  ∃ a b c d, events = a ++ .ready :: b ++ .disconnected :: c ++ .ready :: d

/-- How an event arms the connector to fetch at the next `READY`, or disarms it. -/
def arm (b : Bool) : EventCode → Bool
  | .connecting => false
  | .connected => !b
  | .ready => true
  | .disconnected | .shadowReceived | .lteEvent => b

/-- Whichever of the start, `CONNECTING` and `READY` came last decides: after one of the first two
    the connector is armed by an odd number of `CONNECTED`s, after a `READY` by an even number. -/
def armed (events : List EventCode) : Bool := events.foldl arm false

/-- Some `READY` finds the connector armed. -/
def FetchPoint (events : List EventCode) : Prop :=
  ∃ pre post, events = pre ++ .ready :: post ∧ armed pre

theorem armed_append_singleton (events : List EventCode) (e : EventCode) :
    armed (events ++ [e]) = arm (armed events) e := by
  simp [armed]

theorem fetchPoint_append_singleton {events : List EventCode} {e : EventCode} :
    FetchPoint (events ++ [e]) ↔ FetchPoint events ∨ (e = .ready ∧ armed events) := by
  constructor
  · rintro ⟨pre, post, hsplit, harmed⟩
    cases post using List.reverseRecOn with
    | nil =>
        obtain ⟨rfl, he⟩ := List.append_inj' hsplit rfl
        exact Or.inr ⟨List.singleton_inj.mp he, harmed⟩
    | append_singleton post e' =>
        rw [← List.cons_append, ← List.append_assoc] at hsplit
        exact Or.inl ⟨pre, post, (List.append_inj' hsplit rfl).1, harmed⟩
  · rintro (⟨pre, post, rfl, harmed⟩ | ⟨rfl, harmed⟩)
    · exact ⟨pre, post ++ [e], by simp, harmed⟩
    · exact ⟨events, [], rfl, harmed⟩

theorem FetchPoint.append {a : List EventCode} (h : FetchPoint a) (b : List EventCode) :
    FetchPoint (a ++ b) := by
  obtain ⟨pre, post, rfl, harmed⟩ := h
  exact ⟨pre, post ++ b, by simp, harmed⟩

theorem FetchPoint.of_append {a b : List EventCode} (h : FetchPoint (a ++ b)) :
    FetchPoint a ∨ .ready ∈ b := by
  obtain ⟨pre, post, hsplit, harmed⟩ := h
  rcases List.append_eq_append_iff.mp hsplit with ⟨r, rfl, hr⟩ | ⟨r, rfl, hr⟩
  · exact Or.inr (by simp [hr])
  · cases r with
    | nil => exact Or.inr (by rw [← List.nil_append b, ← hr]; exact List.mem_cons_self)
    | cons e r =>
        obtain ⟨rfl, rfl⟩ := List.cons.inj hr
        exact Or.inl ⟨pre, r, rfl, harmed⟩

theorem FetchPoint.ready_mem {a : List EventCode} (h : FetchPoint a) : .ready ∈ a := by
  obtain ⟨pre, post, rfl, -⟩ := h
  simp

/-! ## The connector over a run -/

/-- The states before the fetch: `AWS_STATE_CONNECTED` when armed, one of the first two if not. -/
def Awaits (state : AwsStateCode) (b : Bool) : Prop :=
  state = .connected ∧ b = true ∨ (state = .offline ∨ state = .connecting) ∧ b = false

theorem Awaits.step {cblk : AwsControlBlk} {b : Bool} (h : Awaits cblk.state b) {e : EventCode}
    (he : ¬(e = .ready ∧ b = true)) : Awaits (awsProcessEvent cblk e).state (arm b e) := by
  rcases h with ⟨hs, rfl⟩ | ⟨hs | hs, rfl⟩
  · cases e <;> simp_all [awsProcessEvent, awsConnectedState, Awaits, arm]
  · cases e <;> simp_all [awsProcessEvent, awsOfflineState, Awaits, arm]
  · cases e <;>
      simp_all [awsProcessEvent, awsConnectingState_eq_awsOfflineState, awsOfflineState, Awaits,
        arm]

/-- The state of a connector that has seen some events: up to the first fetch point the fetch is
    awaited, and from then on it is done and the connector stays in `AWS_STATE_READY`. -/
def FetchTracked (events : List EventCode) (cblk : AwsControlBlk) : Prop :=
  (¬FetchPoint events ∧ cblk.shadowRequests = 0 ∧ Awaits cblk.state (armed events)) ∨
  (FetchPoint events ∧ cblk.shadowRequests = 1 ∧ cblk.state = .ready)

theorem fetchTracked_step {events : List EventCode} {cblk : AwsControlBlk} (e : EventCode)
    (h : FetchTracked events cblk) : FetchTracked (events ++ [e]) (awsProcessEvent cblk e) := by
  rcases h with ⟨hpoint, hcount, hawaits⟩ | ⟨hpoint, hcount, hready⟩
  · by_cases hfetch : e = .ready ∧ armed events = true
    · -- the fetch: armed means `AWS_STATE_CONNECTED`
      have hconnected : cblk.state = .connected := by
        simpa [Awaits, hfetch.2] using hawaits
      refine Or.inr ⟨fetchPoint_append_singleton.mpr (Or.inr hfetch), ?_, ?_⟩
      · rw [awsProcessEvent_shadowRequests, hcount, if_pos ⟨hconnected, hfetch.1⟩]
      · simp [awsProcessEvent, hconnected, awsConnectedState, hfetch.1]
    · refine Or.inl ⟨?_, ?_, ?_⟩
      · rw [fetchPoint_append_singleton]
        exact not_or.mpr ⟨hpoint, hfetch⟩
      · rw [awsProcessEvent_shadowRequests, hcount, if_neg]
        rintro ⟨hconnected, he⟩
        exact hfetch ⟨he, by simpa [Awaits, hconnected] using hawaits⟩
      · rw [armed_append_singleton]
        exact hawaits.step hfetch
  · rw [awsProcessEvent_of_ready hready]
    exact Or.inr ⟨hpoint.append [e], hcount, hready⟩

theorem awsRun_fetchTracked (events : List EventCode) : FetchTracked events (awsRun events) := by
  refine foldl_track ?_ (fun _ _ e h => fetchTracked_step e h) events
  refine Or.inl ⟨?_, rfl, Or.inr ⟨Or.inl rfl, rfl⟩⟩
  intro h
  cases h.ready_mem

theorem awsRun_shadowRequests (events : List EventCode) [Decidable (FetchPoint events)] :
    (awsRun events).shadowRequests = if FetchPoint events then 1 else 0 := by
  rcases awsRun_fetchTracked events with ⟨hpoint, hcount, -⟩ | ⟨hpoint, hcount, -⟩
  · rw [hcount, if_neg hpoint]
  · rw [hcount, if_pos hpoint]

/-- A session fetches as it should iff it has a `READY` just when it has the first fetch point. -/
theorem fetches_eq_iff {pre s : List EventCode} :
    fetches pre s = (if .ready ∈ s then 1 else 0) ↔
      (FetchPoint (pre ++ s) ∧ ¬FetchPoint pre ↔ .ready ∈ s) := by
  classical
  have hmono : FetchPoint pre → FetchPoint (pre ++ s) := fun h => h.append s
  rw [fetches, awsRun_shadowRequests, awsRun_shadowRequests]
  by_cases hpre : FetchPoint pre
  · by_cases hs : EventCode.ready ∈ s <;> simp [hpre, hmono hpre, hs]
  · by_cases hpoint : FetchPoint (pre ++ s) <;> by_cases hs : EventCode.ready ∈ s <;>
      simp [hpre, hpoint, hs]

/-! ## The law -/

/-- An event that is no `DISCONNECTED` lies in a session. -/
theorem exists_session (pre post : List EventCode) {e : EventCode} (he : e ≠ .disconnected) :
    ∃ p s q, Session .disconnected (pre ++ e :: post) p s q ∧ e ∈ s := by
  obtain ⟨p, u, rfl, hu, hp⟩ := exists_split_last EventCode.disconnected pre
  obtain ⟨v, q, rfl, hv, hq⟩ := exists_split_first EventCode.disconnected post
  exact ⟨p, u ++ e :: v, q, ⟨by simp, by simp [hu, hv, he.symm], hp, hq⟩, by simp⟩

/-- `READY`s on both sides of a `DISCONNECTED` are in two sessions, one after the other. -/
theorem ReadyAgain.sessions {events : List EventCode} (h : ReadyAgain events) :
    ∃ p s q t p' s' q', Session .disconnected events p s q ∧ .ready ∈ s ∧
      Session .disconnected events p' s' q' ∧ .ready ∈ s' ∧ p' = p ++ s ++ t := by
  obtain ⟨a, b, c, d, rfl⟩ := h
  obtain ⟨p, u, rfl, hu, hp⟩ := exists_split_last EventCode.disconnected a
  obtain ⟨v, q, rfl, hv, hq⟩ := exists_split_first EventCode.disconnected b
  obtain ⟨p', u', rfl, hu', hp'⟩ := exists_split_last EventCode.disconnected c
  obtain ⟨v', q', rfl, hv', hq'⟩ := exists_split_first EventCode.disconnected d
  refine ⟨p, u ++ .ready :: v, q ++ .disconnected :: (p' ++ u' ++ .ready :: (v' ++ q')),
    q ++ .disconnected :: p', _, u' ++ .ready :: v', q', ⟨?_, ?_, hp, ?_⟩, ?_, ⟨?_, ?_, ?_, hq'⟩,
    ?_, rfl⟩
  · simp
  · simp [hu, hv]
  · cases q with
    | nil => simp
    | cons i q => simpa using hq
  · simp
  · simp
  · simp [hu', hv']
  · rw [← List.append_assoc, List.getLast?_append, List.getLast?_cons]
    cases hlast : p'.getLast? with
    | none => simp
    | some i => simpa [hlast] using hp'
  · simp

/-- A `READY` before a session that has one is in an earlier session. -/
theorem readyAgain_of_before {events p s q : List EventCode}
    (h : Session .disconnected events p s q) (hp : .ready ∈ p) (hs : .ready ∈ s) :
    ReadyAgain events := by
  obtain ⟨c, d, rfl⟩ := List.append_of_mem hs
  have hsplit := h.split
  cases p using List.reverseRecOn with
  | nil => cases hp
  | append_singleton p i =>
      obtain rfl : i = .disconnected := h.opened i (by simp)
      obtain ⟨a, b, rfl⟩ := List.append_of_mem
        ((List.mem_append.mp hp).resolve_right (by decide))
      exact ⟨a, b, c, d ++ q, by simpa using hsplit⟩

/-- And one after it is in a later session. -/
theorem readyAgain_of_after {events p s q : List EventCode}
    (h : Session .disconnected events p s q) (hs : .ready ∈ s) (hq : .ready ∈ q) :
    ReadyAgain events := by
  obtain ⟨a, b, rfl⟩ := List.append_of_mem hs
  have hsplit := h.split
  cases q with
  | nil => cases hq
  | cons i q =>
      obtain rfl : i = .disconnected := h.closed i (by simp)
      obtain ⟨c, d, rfl⟩ := List.append_of_mem ((List.mem_cons.mp hq).resolve_left (by decide))
      exact ⟨p ++ a, b, c, d, by simpa using hsplit⟩

/-- Every session fetches as it should iff at most one has a `READY`, and if one has, it has a
    `READY` that finds the connector armed. -/
theorem oneFetch_iff (events : List EventCode) :
    OneFetch events ↔ ¬ReadyAgain events ∧ (.ready ∈ events → FetchPoint events) := by
  simp only [OneFetch, fetches_eq_iff]
  constructor
  · intro h
    constructor
    · intro hagain
      obtain ⟨p, s, q, t, p', s', q', hsession, hs, hsession', hs', rfl⟩ := hagain.sessions
      have hpoint := ((h _ _ _ hsession).mpr hs).1
      exact ((h _ _ _ hsession').mpr hs').2 (hpoint.append t)
    · intro hready
      obtain ⟨pre, post, rfl⟩ := List.append_of_mem hready
      have hready : EventCode.ready ≠ .disconnected := by decide
      obtain ⟨p, s, q, hsession, hs⟩ := exists_session pre post hready
      rw [hsession.split]
      exact ((h _ _ _ hsession).mpr hs).1.append q
  · rintro ⟨honce, hfetch⟩ p s q hsession
    constructor
    · rintro ⟨hpoint, hp⟩
      exact hpoint.of_append.resolve_left hp
    · intro hs
      refine ⟨?_, fun hp => honce (readyAgain_of_before hsession hp.ready_mem hs)⟩
      have hpoint := hfetch (by rw [hsession.split]; simp [hs])
      rw [hsession.split] at hpoint
      exact hpoint.of_append.resolve_right fun hq => honce (readyAgain_of_after hsession hs hq)

/-- A client that reconnects goes through `CONNECTING`, `CONNECTED` and `READY` again, and its
    second session fetches nothing. -/
theorem oneFetch_fails :
    ¬OneFetch
      [.connecting, .connected, .ready, .disconnected, .connecting, .connected, .ready] := by
  intro h
  have hsecond := h [.connecting, .connected, .ready, .disconnected]
    [.connecting, .connected, .ready] [] ⟨rfl, by decide, by decide, by decide⟩
  exact absurd hsecond (by decide)

end Levaware
