import RequestChain.Context

/-! # Merging profiles

Profiles are merged from left to right into those that a context holds already. The last profile
that declares a key decides its value, a null included, while the place of a key is that of its
first appearance. The first name without a profile ends the merging, and what has been merged until
then stays. Only the profiles of the context change.
-/

namespace RequestChain

/-! ## Names in order of first appearance -/

private theorem eraseDups_of_nodup {names : List String} (distinct : names.Nodup) :
    names.eraseDups = names := by
  induction names with
  | nil => rfl
  | cons name rest ih =>
    obtain ⟨fresh, apart⟩ := List.nodup_cons.mp distinct
    have others : rest.filter (fun other => !other == name) = rest := by
      refine List.filter_eq_self.mpr fun other member => ?_
      have differ : other ≠ name := ne_of_mem_of_not_mem member fresh
      simp [differ]
    rw [List.eraseDups_cons, others, ih apart]

private theorem removeAll_eraseDups (names known : List String) :
    names.removeAll known.eraseDups = names.removeAll known := by
  refine List.filter_congr fun name _ => ?_
  simp [List.mem_eraseDups]

namespace OrderedMap

variable {α : Type}

theorem eraseDups_keys (map : OrderedMap α) : map.keys.eraseDups = map.keys :=
  eraseDups_of_nodup map.nodup

/-- The names of a union, each where it appears first. -/
theorem keys_union_eq_eraseDups (base overrides : OrderedMap α) :
    (base.union overrides).keys = (base.keys ++ overrides.keys).eraseDups := by
  have added : overrides.keys.filter (· ∉ base.keys) = overrides.keys.removeAll base.keys := by
    refine List.filter_congr fun name _ => ?_
    simp
  have distinct : (overrides.keys.removeAll base.keys).Nodup :=
    overrides.nodup.sublist List.filter_sublist
  rw [keys_union, List.eraseDups_append, eraseDups_keys, eraseDups_of_nodup distinct, added]

end OrderedMap

/-! ## What profiles declare -/

/-- The value that the last of the named profiles to declare a key gives it. -/
def Config.lastDeclared? (config : Config) (names : List String) (key : String) : Option Json :=
  names.reverse.findSome? fun name => (config.profiles.get? name).bind (·.get? key)

/-- The keys that the named profiles declare, one profile after the other. -/
def Config.declaredKeys (config : Config) (names : List String) : List String :=
  names.flatMap fun name => (config.profiles.get? name).elim [] OrderedMap.keys

theorem Config.lastDeclared?_cons {config : Config} {name : String} {profile : ScalarMap}
    (found : config.profiles.get? name = some profile) (rest : List String) (key : String) :
    config.lastDeclared? (name :: rest) key =
      (config.lastDeclared? rest key).or (profile.get? key) := by
  rw [lastDeclared?, List.reverse_cons, List.findSome?_append, List.findSome?_singleton, found,
    Option.bind_some, lastDeclared?]

/-- The profiles of the names, merged one after the other over what was there before: each key has
the value that was declared last and stands where it appeared first. -/
structure Merged (config : Config) (names : List String) (before after : ScalarMap) : Prop where
  value : ∀ key, after.get? key = (config.lastDeclared? names key).or (before.get? key)
  order : after.keys = (before.keys ++ config.declaredKeys names).eraseDups

namespace Merged

variable {config : Config}

theorem nil (before : ScalarMap) : Merged config [] before before where
  value _ := rfl
  order := by rw [Config.declaredKeys, List.flatMap_nil, List.append_nil, OrderedMap.eraseDups_keys]

theorem cons {name : String} {profile : ScalarMap}
    (found : config.profiles.get? name = some profile) {rest : List String}
    {before after : ScalarMap} (merged : Merged config rest (before.union profile) after) :
    Merged config (name :: rest) before after where
  value key := by
    rw [merged.value, OrderedMap.get?_union, Config.lastDeclared?_cons found, Option.or_assoc]
  order := by
    have declared : config.declaredKeys (name :: rest) =
        profile.keys ++ config.declaredKeys rest := by
      rw [Config.declaredKeys, List.flatMap_cons, found]
      rfl
    calc after.keys
        = ((before.union profile).keys ++ config.declaredKeys rest).eraseDups := merged.order
      _ = (before.keys ++ profile.keys).eraseDups ++
            ((config.declaredKeys rest).removeAll (before.keys ++ profile.keys)).eraseDups := by
          rw [List.eraseDups_append, OrderedMap.eraseDups_keys, OrderedMap.keys_union_eq_eraseDups,
            removeAll_eraseDups]
      _ = (before.keys ++ config.declaredKeys (name :: rest)).eraseDups := by
          rw [← List.eraseDups_append, List.append_assoc, declared]

end Merged

/-! ## Applying profiles -/

namespace Context

variable {config : Config}

theorem applyProfiles_of_known {name : String} {profile : ScalarMap}
    (found : config.profiles.get? name = some profile) (context : Context) (rest : List String) :
    context.applyProfiles config (name :: rest) =
      { context with profile := context.profile.union profile }.applyProfiles config rest := by
  rw [applyProfiles, found]

theorem applyProfiles_of_unknown {name : String} (unknown : name ∉ config.profiles.keys)
    (context : Context) (rest : List String) :
    context.applyProfiles config (name :: rest) = (context, some name) := by
  rw [applyProfiles, config.profiles.get?_eq_none_of_not_mem unknown]

private theorem exists_profile {name : String} (known : name ∈ config.profiles.keys) :
    ∃ profile, config.profiles.get? name = some profile :=
  Option.isSome_iff_exists.mp (config.profiles.isSome_get?_iff.mpr known)

/-- Names of profiles are all merged. -/
theorem applyProfiles_of_all_known (context : Context) {names : List String}
    (known : ∀ name ∈ names, name ∈ config.profiles.keys) :
    ∃ merged, context.applyProfiles config names = ({ context with profile := merged }, none) ∧
      Merged config names context.profile merged := by
  induction names generalizing context with
  | nil => exact ⟨context.profile, rfl, .nil context.profile⟩
  | cons name rest ih =>
    obtain ⟨first, others⟩ := List.forall_mem_cons.mp known
    obtain ⟨profile, found⟩ := exists_profile first
    obtain ⟨merged, applied, isMerged⟩ :=
      ih { context with profile := context.profile.union profile } others
    refine ⟨merged, ?_, isMerged.cons found⟩
    rw [applyProfiles_of_known found, applied]

/-- Names in a row are applied one part after the other, unless the first part ends the merging. -/
theorem applyProfiles_append (context : Context) (first second : List String) :
    context.applyProfiles config (first ++ second) =
      match context.applyProfiles config first with
      | (after, none) => after.applyProfiles config second
      | (after, some unknown) => (after, some unknown) := by
  induction first generalizing context with
  | nil => rfl
  | cons name rest ih =>
    by_cases known : name ∈ config.profiles.keys
    · obtain ⟨profile, found⟩ := exists_profile known
      rw [List.cons_append, applyProfiles_of_known found, applyProfiles_of_known found, ih]
    · rw [List.cons_append, applyProfiles_of_unknown known, applyProfiles_of_unknown known]

/-- A name without a profile ends the merging of those before it. -/
theorem applyProfiles_of_first_unknown (context : Context) {before : List String} {unknown : String}
    (known : ∀ name ∈ before, name ∈ config.profiles.keys)
    (missing : unknown ∉ config.profiles.keys) (behind : List String) :
    ∃ merged, context.applyProfiles config (before ++ unknown :: behind) =
        ({ context with profile := merged }, some unknown) ∧
      Merged config before context.profile merged := by
  obtain ⟨merged, applied, isMerged⟩ := context.applyProfiles_of_all_known known
  refine ⟨merged, ?_, isMerged⟩
  rw [applyProfiles_append, applied]
  exact applyProfiles_of_unknown missing _ behind

theorem applyProfiles_snd_eq_none_iff (context : Context) (names : List String) :
    (context.applyProfiles config names).2 = none ↔
      ∀ name ∈ names, name ∈ config.profiles.keys := by
  constructor
  · intro applied name member
    refine Decidable.byContradiction fun unknown => ?_
    obtain ⟨before, behind, shape⟩ := List.append_of_mem member
    rw [shape, applyProfiles_append] at applied
    split at applied
    · rw [applyProfiles_of_unknown unknown] at applied
      cases applied
    · cases applied
  · intro known
    obtain ⟨merged, applied, -⟩ := context.applyProfiles_of_all_known known
    rw [applied]

/-- Profiles are merged if all names have one, and up to the first that has none otherwise. What is
merged are the profiles of the context; everything else in it stays. Names in a row may as well be
applied in two parts. -/
theorem applyProfiles_merges (context : Context) (config : Config) :
    (∀ names, (context.applyProfiles config names).2 = none ↔
      ∀ name ∈ names, name ∈ config.profiles.keys) ∧
    (∀ names, (∀ name ∈ names, name ∈ config.profiles.keys) →
      ∃ merged, context.applyProfiles config names = ({ context with profile := merged }, none) ∧
        Merged config names context.profile merged) ∧
    (∀ before unknown behind, (∀ name ∈ before, name ∈ config.profiles.keys) →
      unknown ∉ config.profiles.keys →
      ∃ merged, context.applyProfiles config (before ++ unknown :: behind) =
          ({ context with profile := merged }, some unknown) ∧
        Merged config before context.profile merged) ∧
    ∀ first second, context.applyProfiles config (first ++ second) =
      match context.applyProfiles config first with
      | (after, none) => after.applyProfiles config second
      | (after, some unknown) => (after, some unknown) :=
  ⟨context.applyProfiles_snd_eq_none_iff, fun _ => context.applyProfiles_of_all_known,
    fun _ _ behind known missing => context.applyProfiles_of_first_unknown known missing behind,
    context.applyProfiles_append⟩

/-- Two profiles that declare a key in common, one of them as a null. -/
private def twoProfiles : Config :=
  { profiles := ⟨[
      ("base", ⟨[("region", .string "us"), ("tier", .string "free")], by simp⟩),
      ("prod", ⟨[("tier", .null), ("host", .string "h")], by simp⟩)], by simp⟩ }

/-- A null overrides, keys keep their places, and nothing is merged behind an unknown name. -/
theorem applyProfiles_merges_twoProfiles :
    let context : Context := { profile := ⟨[("zone", .string "z"), ("tier", .bool true)], by simp⟩ }
    (∀ name ∈ ["base", "prod"], name ∈ twoProfiles.profiles.keys) ∧
      (∃ merged, context.applyProfiles twoProfiles ["base", "prod"] =
          ({ context with profile := merged }, none) ∧
        merged.keys = ["zone", "tier", "region", "host"] ∧ merged.get? "tier" = some .null) ∧
      (∀ name ∈ ["base"], name ∈ twoProfiles.profiles.keys) ∧ "dev" ∉ twoProfiles.profiles.keys ∧
      ∃ merged, context.applyProfiles twoProfiles (["base"] ++ "dev" :: ["prod"]) =
          ({ context with profile := merged }, some "dev") ∧
        merged.get? "tier" = some (.string "free") := by
  intro context
  have both : ∀ name ∈ ["base", "prod"], name ∈ twoProfiles.profiles.keys := by decide
  have first : ∀ name ∈ ["base"], name ∈ twoProfiles.profiles.keys := by decide
  have missing : "dev" ∉ twoProfiles.profiles.keys := by decide
  obtain ⟨-, whole, stopped, -⟩ := applyProfiles_merges context twoProfiles
  obtain ⟨merged, applied, isMerged⟩ := whole ["base", "prod"] both
  obtain ⟨partly, ended, isPartly⟩ := stopped ["base"] "dev" ["prod"] first missing
  exact ⟨both, ⟨merged, applied, isMerged.order, isMerged.value "tier"⟩, first, missing,
    partly, ended, isPartly.value "tier"⟩

end Context

end RequestChain
