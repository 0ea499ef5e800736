import RequestChain.OrderedMap

/-! # Cache with expiry

A map from keys to texts in which an entry may expire at an instant. Instants are plain numbers of
milliseconds; an entry is gone from its expiry on. Reading an expired entry removes it, which no
later reading can tell.
-/

namespace RequestChain

/-- The instants that successive readings of a clock give. -/
structure Clock where
  instants : Nat → Nat
  /-- How often the clock has been read. -/
  readings : Nat := 0

/-- The present instant, and the clock after it has been read. -/
def Clock.read (clock : Clock) : Nat × Clock :=
  (clock.instants clock.readings, { clock with readings := clock.readings + 1 })

/-- A text and the instant from which on it is gone. -/
structure CacheEntry where
  value : String
  expiry : Option Nat
  deriving DecidableEq, Repr

/-- Whether an entry is gone. -/
def CacheEntry.isExpired (entry : CacheEntry) (now : Nat) : Bool :=
  entry.expiry.any (· ≤ now)

/-- Texts by key. -/
structure Cache where
  entries : OrderedMap CacheEntry := .empty
  deriving Repr, Inhabited

namespace Cache

/-- The text under a key that has not expired, and the cache without it if it has. -/
def get (cache : Cache) (now : Nat) (key : String) : Option String × Cache :=
  match cache.entries.get? key with
  | none => (none, cache)
  | some entry =>
    if entry.isExpired now then (none, ⟨cache.entries.erase key⟩) else (some entry.value, cache)

/-- Stores a text that expires after a span of time, or never. -/
def set (cache : Cache) (now : Nat) (key value : String) (lifetime : Option Nat) : Cache :=
  ⟨cache.entries.insert key ⟨value, lifetime.map (now + ·)⟩⟩

/-- Removes the text under a key. -/
def delete (cache : Cache) (key : String) : Cache :=
  ⟨cache.entries.erase key⟩

section Get

variable {cache : Cache} {now : Nat} {key : String}

theorem get_of_absent (absent : cache.entries.get? key = none) :
    cache.get now key = (none, cache) := by
  simp only [get, absent]

theorem get_of_expired {entry : CacheEntry} (held : cache.entries.get? key = some entry)
    (expired : entry.isExpired now = true) :
    cache.get now key = (none, ⟨cache.entries.erase key⟩) := by
  simp only [get, held, if_pos expired]

theorem get_of_fresh {entry : CacheEntry} (held : cache.entries.get? key = some entry)
    (fresh : entry.isExpired now = false) : cache.get now key = (some entry.value, cache) := by
  simp only [get, held, fresh, Bool.false_eq_true, if_false]

end Get

/-- What is read is what is held, and reading it leaves the cache as it is. -/
theorem of_get_eq_some {cache : Cache} {now : Nat} {key value : String}
    (read : (cache.get now key).1 = some value) :
    (cache.get now key).2 = cache ∧
      ∃ expiry, cache.entries.get? key = some ⟨value, expiry⟩ := by
  unfold get at read ⊢
  cases held : cache.entries.get? key with
  | none =>
    rw [held] at read
    cases read
  | some entry =>
    simp only [held] at read ⊢
    split at read
    · cases read
    · rename_i fresh
      obtain rfl := Option.some.inj read
      exact ⟨if_neg fresh ▸ rfl, entry.expiry, rfl⟩

/-- Reading adds nothing. -/
theorem of_get?_get {cache : Cache} {now : Nat} {key other : String} {entry : CacheEntry}
    (held : (cache.get now key).2.entries.get? other = some entry) :
    cache.entries.get? other = some entry := by
  unfold get at held
  split at held
  · exact held
  · split at held
    · rw [OrderedMap.get?_erase] at held
      split at held
      · cases held
      · exact held
    · exact held

end Cache

end RequestChain
