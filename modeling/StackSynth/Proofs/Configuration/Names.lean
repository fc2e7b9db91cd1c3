import StackSynth.Naming
import StackSynth.Proofs.Text.Lowercase

namespace StackSynth

open Text

/-- A text written in another way: in lower case, or with white space around it. -/
inductive Text.Restyled (s : String) : String → Prop where
  | refl : Restyled s s
  | lowercase {t : String} : Restyled s t → Restyled s (lowercase t)
  | pad {t before after : String} : Restyled s t → IsBlankText before.toList →
      IsBlankText after.toList → Restyled s (before ++ t ++ after)

/-- A context with the fields that names are made from written in another way. -/
structure Context.Restyled (context other : Context) : Prop where
  team : Text.Restyled context.team other.team
  service : Text.Restyled context.service other.service
  environment : Text.Restyled context.environment other.environment
  region : Text.Restyled context.region other.region

structure Context.NamesByConvention (context : Context) : Prop where
  /-- Every part is put in lower case apart from the others. -/
  eq_parts : ∀ base, context.generateName base =
    lowercase (trim context.team) ++ "-" ++ lowercase (trim context.service) ++ "-" ++
      lowercase (trim context.environment) ++ "-" ++ regionAbbreviation context.region ++ "-" ++
      lowercase base
  lowercase_eq : ∀ base, lowercase (context.generateName base) = context.generateName base
  eq_of_restyled : ∀ other, context.Restyled other →
    ∀ base, other.generateName base = context.generateName base
  /-- Names collide by letter case only. -/
  eq_iff : ∀ one two,
    context.generateName one = context.generateName two ↔ lowercase one = lowercase two

theorem lowercase_normalize (s : String) : lowercase (normalize s) = normalize s :=
  lowercase_lowercase (trim s)

theorem normalize_lowercase (s : String) : normalize (lowercase s) = normalize s := by
  rw [normalize, trim_lowercase, lowercase_lowercase, normalize]

theorem Text.Restyled.normalize_eq {s t : String} (h : Restyled s t) :
    normalize t = normalize s := by
  induction h with
  | refl => rfl
  | lowercase _ ih => rw [normalize_lowercase, ih]
  | pad _ hbefore hafter ih => rw [normalize, trim_append _ hbefore hafter, ← normalize, ih]

theorem regionAbbreviation_congr {one two : String} (h : normalize one = normalize two) :
    regionAbbreviation one = regionAbbreviation two := by
  rw [regionAbbreviation, regionAbbreviation, h]

theorem regionAbbreviation_cases (region : String) :
    regionAbbreviation region ∈ regionAbbreviations.map Prod.snd ∨
      (regionAbbreviation region).toList <+: (normalize region).toList := by
  simp only [regionAbbreviation]
  cases hfind : Entries.find? regionAbbreviations (normalize region) with
  | some abbreviation =>
    exact Or.inl (List.mem_map_of_mem (Entries.mem_of_find?_eq_some hfind))
  | none =>
    apply Or.inr
    cases hcut : cutFirst? '-' (normalize region).toList with
    | none => exact List.prefix_refl _
    | some pieces =>
      obtain ⟨hregion, _⟩ := cutFirst?_eq_some hcut
      rw [hregion, String.toList_ofList]
      exact List.prefix_append _ _

theorem lowercase_regionAbbreviation (region : String) :
    lowercase (regionAbbreviation region) = regionAbbreviation region := by
  have hknown : ∀ abbreviation ∈ regionAbbreviations.map Prod.snd,
      abbreviation.toList.all plainRanges.contains = true := by decide +kernel
  obtain hmem | hprefix := regionAbbreviation_cases region
  · exact lowercase_of_plain (hknown _ hmem)
  · -- what is cut from a text in lower case is in lower case
    apply lowercase_of_isSmall
    intro c hc
    have hregion : c ∈ (normalize region).toList := hprefix.subset hc
    exact isSmall_of_mem_lowercase hregion

namespace Context

theorem generateName_eq_parts (context : Context) (base : String) :
    context.generateName base =
      normalize context.team ++ "-" ++ normalize context.service ++ "-" ++
        normalize context.environment ++ "-" ++ regionAbbreviation context.region ++ "-" ++
        lowercase base := by
  have hjoined : "-".intercalate [normalize context.team, normalize context.service,
      normalize context.environment, regionAbbreviation context.region, base] =
      normalize context.team ++ "-" ++ normalize context.service ++ "-" ++
        normalize context.environment ++ "-" ++ regionAbbreviation context.region ++ "-" ++
        base := rfl
  rw [generateName, hjoined]
  simp only [lowercase_append_hyphen, lowercase_normalize, lowercase_regionAbbreviation]

/-- Names follow the convention, in every context. -/
theorem namesByConvention (context : Context) : context.NamesByConvention where
  eq_parts := context.generateName_eq_parts
  lowercase_eq := fun _ => lowercase_lowercase _
  eq_of_restyled := by
    intro other h base
    have hregion := regionAbbreviation_congr h.region.normalize_eq
    rw [generateName_eq_parts, generateName_eq_parts, h.team.normalize_eq,
      h.service.normalize_eq, h.environment.normalize_eq, hregion]
  eq_iff := by
    intro one two
    rw [generateName_eq_parts, generateName_eq_parts]
    exact String.append_right_inj _

example : (Context.mk "ΟΔΟΣ " "API" "dev" "Mars-1" []).generateName "ΣΑΣ" =
    "οδος-api-dev-mars-σας" := by decide +kernel

end Context

end StackSynth
