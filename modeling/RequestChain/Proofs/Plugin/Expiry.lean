import Mathlib.Data.List.Basic
import RequestChain.Plugin.Cache

/-! # What a cache gives back

Texts are stored, read and removed at instants, in any order and under any keys. What a read gives
is decided by the last operation before it that stores or removes a text under its key, and by
nothing else: neither operations on other keys nor the removal of expired texts by earlier reads can
be told. All that is asked of the clock is that no earlier operation comes at a later instant than
the read, since a text that was removed then might still have its lifetime.
-/

namespace RequestChain.Cache

/-- Something that is done to a cache. -/
inductive Operation where
  | get (key : String)
  | set (key value : String) (lifetime : Option Nat)
  | delete (key : String)
  deriving DecidableEq, Repr

/-- An operation at an instant. -/
structure Event where
  instant : Nat
  operation : Operation
  deriving DecidableEq, Repr

/-- Whether an event stores or removes a text under the key. -/
def Event.writes (key : String) (event : Event) : Bool :=
  match event.operation with
  | .get _ => false
  | .set other _ _ | .delete other => other == key

/-- The cache that an event leaves. -/
def after (cache : Cache) (event : Event) : Cache :=
  match event.operation with
  | .get key => (cache.get event.instant key).2
  | .set key value lifetime => cache.set event.instant key value lifetime
  | .delete key => cache.delete key

/-- The cache that events in a row leave, which is empty at first. -/
def replay (events : List Event) : Cache :=
  events.foldl after {}

/-- The last event that stores or removes a text under the key. -/
def lastWrite? (events : List Event) (key : String) : Option Event :=
  (events.filter (Event.writes key)).getLast?

/-! ## One event -/

section

variable {cache : Cache} {now : Nat} {key value : String}

/-- What is read is what is held and has not expired. -/
theorem get_fst_eq (cache : Cache) (now : Nat) (key : String) :
    (cache.get now key).1 =
      ((cache.entries.get? key).filter fun entry => !entry.isExpired now).map CacheEntry.value := by
  cases held : cache.entries.get? key with
  | none => rw [get_of_absent held]; rfl
  | some entry =>
    cases expired : entry.isExpired now with
    | true => rw [get_of_expired held expired, Option.filter_some, expired]; rfl
    | false => rw [get_of_fresh held expired, Option.filter_some, expired]; rfl

theorem get_fst_of_same {other : Cache} (same : other.entries.get? key = cache.entries.get? key) :
    (other.get now key).1 = (cache.get now key).1 := by
  rw [get_fst_eq, get_fst_eq, same]

theorem get?_after_set (cache : Cache) (instant : Nat) (stored : String) (lifetime : Option Nat)
    (other : String) :
    (cache.after ⟨instant, .set key stored lifetime⟩).entries.get? other =
      if other = key then some ⟨stored, lifetime.map (instant + ·)⟩
      else cache.entries.get? other :=
  OrderedMap.get?_insert _ _ _ _

theorem get?_after_delete (cache : Cache) (instant : Nat) (other : String) :
    (cache.after ⟨instant, .delete key⟩).entries.get? other =
      if other = key then none else cache.entries.get? other :=
  OrderedMap.get?_erase _ _ _

/-- What has been stored can be read until it expires. -/
theorem get_after_set {instant : Nat} {stored : String} {lifetime : Option Nat} :
    ((cache.after ⟨instant, .set key stored lifetime⟩).get now key).1 = some value ↔
      stored = value ∧ ∀ span, lifetime = some span → now < instant + span := by
  rw [get_fst_eq, get?_after_set, if_pos rfl, Option.filter_some]
  cases lifetime with
  | none => simp [CacheEntry.isExpired]
  | some span => simp [CacheEntry.isExpired, and_comm]

theorem get_after_delete (cache : Cache) (instant now : Nat) (key : String) :
    ((cache.after ⟨instant, .delete key⟩).get now key).1 = none := by
  rw [get_fst_eq, get?_after_delete, if_pos rfl]
  rfl

/-- A text that has expired stays expired. -/
theorem isExpired_of_le {entry : CacheEntry} {instant : Nat}
    (expired : entry.isExpired instant = true) (later : instant ≤ now) :
    entry.isExpired now = true := by
  obtain ⟨value, expiry⟩ := entry
  cases expiry with
  | none => cases expired
  | some expiry => exact decide_eq_true (Nat.le_trans (of_decide_eq_true expired) later)

/-- An earlier read removes only what could not be read any more. -/
theorem get_after_get {instant : Nat} (other : String) (past : instant ≤ now) :
    ((cache.after ⟨instant, .get other⟩).get now key).1 = (cache.get now key).1 := by
  change ((cache.get instant other).2.get now key).1 = _
  cases held : cache.entries.get? other with
  | none => rw [get_of_absent held]
  | some entry =>
    cases expired : entry.isExpired instant with
    | false => rw [get_of_fresh held expired]
    | true =>
      rw [get_of_expired held expired, get_fst_eq, OrderedMap.get?_erase]
      by_cases same : key = other
      · subst same
        rw [if_pos rfl, get_of_expired held (isExpired_of_le expired past)]
        rfl
      · rw [if_neg same, get_fst_eq]

/-- Only writes under its key can be told by a read. -/
theorem get_after_of_silent {event : Event} (past : event.instant ≤ now)
    (silent : event.writes key = false) :
    ((cache.after event).get now key).1 = (cache.get now key).1 := by
  obtain ⟨instant, operation⟩ := event
  cases operation with
  | get other => exact get_after_get other past
  | set other value lifetime =>
    have differ : key ≠ other := Ne.symm (beq_eq_false_iff_ne.mp silent)
    exact get_fst_of_same (by rw [get?_after_set, if_neg differ])
  | delete other =>
    have differ : key ≠ other := Ne.symm (beq_eq_false_iff_ne.mp silent)
    exact get_fst_of_same (by rw [get?_after_delete, if_neg differ])

/-- What a write leaves under its key does not depend on what was there. -/
theorem get_after_of_writes {event : Event} (writes : event.writes key = true) (other : Cache) :
    ((cache.after event).get now key).1 = ((other.after event).get now key).1 := by
  obtain ⟨instant, operation⟩ := event
  cases operation with
  | get other => cases writes
  | set other value lifetime =>
    obtain rfl := beq_iff_eq.mp writes
    exact get_fst_of_same (by rw [get?_after_set, get?_after_set, if_pos rfl, if_pos rfl])
  | delete other =>
    obtain rfl := beq_iff_eq.mp writes
    rw [get_after_delete, get_after_delete]

end

/-! ## Events in a row -/

section

variable {now : Nat} {key : String}

/-- Events that do not write under the key can be left out, whatever the cache was before. -/
private theorem get_foldl_filter {keep : Event → Bool} {events : List Event}
    (past : ∀ event ∈ events, event.instant ≤ now)
    (kept : ∀ event ∈ events, event.writes key = true → keep event = true)
    {left right : Cache} (same : (left.get now key).1 = (right.get now key).1) :
    (((events.filter keep).foldl after left).get now key).1 =
      ((events.foldl after right).get now key).1 := by
  induction events generalizing left right with
  | nil => exact same
  | cons event rest ih =>
    obtain ⟨here, others⟩ := List.forall_mem_cons.mp past
    obtain ⟨keptHere, keptOthers⟩ := List.forall_mem_cons.mp kept
    have following {left right : Cache} (same : (left.get now key).1 = (right.get now key).1) :=
      ih others keptOthers same
    cases writes : event.writes key with
    | true =>
      rw [List.filter_cons_of_pos (keptHere writes)]
      exact following (get_after_of_writes writes right)
    | false =>
      have unchanged : (right.get now key).1 = ((right.after event).get now key).1 :=
        (get_after_of_silent here writes).symm
      cases keeps : keep event with
      | true =>
        rw [List.filter_cons_of_pos keeps]
        exact following ((get_after_of_silent here writes).trans (same.trans unchanged))
      | false =>
        rw [List.filter_cons_of_neg (by simp [keeps])]
        exact following (same.trans unchanged)

/-- The events that do not write under the key can be left out. -/
theorem get_replay_filter {keep : Event → Bool} {events : List Event}
    (past : ∀ event ∈ events, event.instant ≤ now)
    (kept : ∀ event ∈ events, event.writes key = true → keep event = true) :
    ((replay (events.filter keep)).get now key).1 = ((replay events).get now key).1 :=
  get_foldl_filter past kept rfl

/-- The last write under the key decides. -/
theorem get_replay_eq {events : List Event} (past : ∀ event ∈ events, event.instant ≤ now) :
    ((replay events).get now key).1 =
      (lastWrite? events key).bind fun event => (((replay []).after event).get now key).1 := by
  rw [← get_replay_filter past fun _ _ writes => writes, lastWrite?]
  have writes : ∀ event ∈ events.filter (Event.writes key), event.writes key = true :=
    fun event member => (List.mem_filter.mp member).2
  rcases (events.filter (Event.writes key)).eq_nil_or_concat' with none | ⟨before, event, shape⟩
  · rw [none]
    rfl
  · rw [shape] at writes ⊢
    rw [List.getLast?_concat, Option.bind_some, replay, List.foldl_append]
    exact get_after_of_writes (writes event (by simp)) (replay [])

/-- A read gives what the last write under its key has stored, if that was stored for good or has
not expired. Nothing else matters: whatever is left out that does not write under the key, which
are all operations on other keys and all earlier reads, the read gives the same. What is stored for
no time at all is never read. -/
theorem get_replay {events : List Event} (past : ∀ event ∈ events, event.instant ≤ now) :
    (∀ value, ((replay events).get now key).1 = some value ↔
      ∃ instant lifetime, lastWrite? events key = some ⟨instant, .set key value lifetime⟩ ∧
        ∀ span, lifetime = some span → now < instant + span) ∧
    (∀ keep : Event → Bool,
      (∀ event ∈ events, event.writes key = true → keep event = true) →
        ((replay (events.filter keep)).get now key).1 = ((replay events).get now key).1) ∧
    ∀ instant value, lastWrite? events key = some ⟨instant, .set key value (some 0)⟩ →
      ((replay events).get now key).1 = none := by
  have decided : ((replay events).get now key).1 = _ := get_replay_eq past
  refine ⟨fun value => ?_, fun keep => get_replay_filter past, fun instant value last => ?_⟩
  · rw [decided, Option.bind_eq_some_iff]
    constructor
    · rintro ⟨⟨instant, operation⟩, last, read⟩
      have writes := (List.mem_filter.mp (List.mem_of_getLast? last)).2
      cases operation with
      | get other => cases writes
      | delete other =>
        obtain rfl := beq_iff_eq.mp writes
        rw [get_after_delete] at read
        cases read
      | set other stored lifetime =>
        obtain rfl := beq_iff_eq.mp writes
        obtain ⟨rfl, fresh⟩ := get_after_set.mp read
        exact ⟨instant, lifetime, last, fresh⟩
    · rintro ⟨instant, lifetime, last, fresh⟩
      exact ⟨_, last, get_after_set.mpr ⟨rfl, fresh⟩⟩
  · have stored : instant ≤ now :=
      past _ (List.mem_filter.mp (List.mem_of_getLast? last)).1
    rw [decided, last, Option.bind_some]
    refine Option.eq_none_iff_forall_ne_some.mpr fun other read => ?_
    have fresh := (get_after_set.mp read).2 0 rfl
    omega

/-- A text that an early read has removed is stored again, and is gone from its expiry on. -/
theorem get_replay_atExpiry :
    let events : List Event := [
      ⟨0, .set "a" "x" (some 5)⟩, ⟨1, .set "b" "y" none⟩, ⟨5, .get "a"⟩,
      ⟨5, .set "a" "z" (some 3)⟩, ⟨6, .set "c" "w" (some 0)⟩, ⟨7, .delete "b"⟩]
    (∀ event ∈ events, event.instant ≤ 7) ∧ ((replay events).get 7 "a").1 = some "z" ∧
      ((replay events).get 8 "a").1 = none ∧ ((replay events).get 7 "c").1 = none := by
  intro events
  have past : ∀ event ∈ events, event.instant ≤ 7 := by decide
  have past' : ∀ event ∈ events, event.instant ≤ 8 := by decide
  have last : lastWrite? events "a" = some ⟨5, .set "a" "z" (some 3)⟩ := by decide
  refine ⟨past, ((get_replay past).1 "z").mpr ⟨5, some 3, last, ?_⟩, ?_,
    (get_replay past).2.2 6 "w" (by decide)⟩
  · rintro span ⟨⟩
    decide
  · refine Option.eq_none_iff_forall_ne_some.mpr fun value read => ?_
    obtain ⟨instant, lifetime, itself, fresh⟩ := ((get_replay past').1 value).mp read
    cases last.symm.trans itself
    exact absurd (fresh 3 rfl) (by decide)

end

end RequestChain.Cache
