import Typesmith.Naming

/-! # Letter case

Texts that differ in the case of the letters `A` to `Z` only are equal for every comparison that has
no regard to it, and stay so when their first characters are raised.
-/

namespace Typesmith

namespace Text

variable {s t other : String} {c d : Char}

theorem equalIgnoringCase_iff : equalIgnoringCase s t = true ↔
    s.toList.map Char.toLower = t.toList.map Char.toLower := by
  rw [equalIgnoringCase, beq_iff_eq, asciiLower, asciiLower, ← String.toList_inj, String.toList_map,
    String.toList_map]

theorem equalIgnoringCase_self : equalIgnoringCase s s = true :=
  beq_self_eq_true _

theorem equalIgnoringCase_left (h : equalIgnoringCase s t = true) :
    equalIgnoringCase s other = equalIgnoringCase t other := by
  rw [equalIgnoringCase, equalIgnoringCase, beq_iff_eq.mp h]

theorem equalIgnoringCase_right (h : equalIgnoringCase s t = true) :
    equalIgnoringCase other s = equalIgnoringCase other t := by
  rw [equalIgnoringCase, equalIgnoringCase, beq_iff_eq.mp h]

theorem length_of_equalIgnoringCase (h : equalIgnoringCase s t = true) :
    s.length = t.length := by
  have same := congrArg List.length (equalIgnoringCase_iff.mp h)
  rwa [List.length_map, List.length_map, String.length_toList, String.length_toList] at same

theorem of_ascii {p : Char → Prop} (all : ∀ n < 128, p (.ofNat n)) (ascii : c.toNat < 128) :
    p c := by
  have here := all _ ascii
  rwa [Char.ofNat_toNat] at here

theorem toLower_of_not_ascii (h : ¬ c.toNat < 128) : c.toLower = c := by
  refine dif_neg ?_
  rintro ⟨-, last⟩
  have last : c.toNat ≤ 90 := UInt32.le_iff_toNat_le.mp last
  omega

theorem toLower_ascii_iff : c.toLower.toNat < 128 ↔ c.toNat < 128 := by
  by_cases ascii : c.toNat < 128
  · have lowered : c.toLower.toNat < 128 :=
      of_ascii (p := fun c => c.toLower.toNat < 128) (by decide) ascii
    exact iff_of_true lowered ascii
  · rw [toLower_of_not_ascii ascii]

theorem map_toLower_upper_of_ascii (ascii : c.toNat < 128) :
    (upper c).map Char.toLower = [c.toLower] :=
  of_ascii (p := fun c => (upper c).map Char.toLower = [c.toLower]) (by decide) ascii

theorem map_toLower_upper (h : c.toLower = d.toLower) :
    (upper c).map Char.toLower = (upper d).map Char.toLower := by
  have together : c.toNat < 128 ↔ d.toNat < 128 := by
    rw [← toLower_ascii_iff, h, toLower_ascii_iff]
  by_cases ascii : c.toNat < 128
  · rw [map_toLower_upper_of_ascii ascii, map_toLower_upper_of_ascii (together.mp ascii), h]
  · rw [toLower_of_not_ascii ascii, toLower_of_not_ascii (mt together.mpr ascii)] at h
    rw [h]

end Text

namespace Naming

open Text

variable {s t : String}

theorem map_toLower_raiseFirst {cs ds : List Char}
    (h : cs.map Char.toLower = ds.map Char.toLower) :
    (raiseFirst cs).map Char.toLower = (raiseFirst ds).map Char.toLower := by
  cases cs with
  | nil =>
    rw [List.map_nil, eq_comm, List.map_eq_nil_iff] at h
    rw [h]
  | cons c cs =>
    cases ds with
    | nil => cases h
    | cons d ds =>
      obtain ⟨first, rest⟩ := List.cons.inj h
      rw [raiseFirst, raiseFirst, List.map_append, List.map_append, map_toLower_upper first, rest]

theorem equalIgnoringCase_capitalize (h : equalIgnoringCase s t = true) :
    equalIgnoringCase (capitalize s) (capitalize t) = true := by
  rw [equalIgnoringCase_iff] at h ⊢
  rw [capitalize, capitalize, String.toList_ofList, String.toList_ofList, map_toLower_raiseFirst h]

end Naming

end Typesmith
