import EdiSchema.Text.Case

/-!
# Texts that differ in case

Texts are compared without regard to the case of the letters `A` to `Z`, while names take the full
upper case of Unicode. The two fit together where a text is compared with capital letters: whatever
agrees with these has them as its upper case, so no letter outside ASCII is taken for one of them.
-/

namespace EdiSchema.Text

/-- The capital letters are the characters with the codes from 65 to 90. -/
theorem isUpper_iff_toNat (c : Char) : c.isUpper = true ↔ 65 ≤ c.toNat ∧ c.toNat ≤ 90 := by
  have hvalues : c.isUpper = true ↔ 'A'.val ≤ c.val ∧ c.val ≤ 'Z'.val := decide_eq_true_iff
  rw [hvalues, UInt32.le_iff_toNat_le, UInt32.le_iff_toNat_le]
  exact Iff.rfl

/-- A small letter comes 32 places after its capital letter. -/
theorem toNat_toLower (c : Char) :
    c.toLower.toNat = if 65 ≤ c.toNat ∧ c.toNat ≤ 90 then c.toNat + 32 else c.toNat := by
  have hrange := isUpper_iff_toNat c
  by_cases hupper : c.isUpper = true
  · have hshift : ('a'.val - 'A'.val).toNat = 32 := by decide
    have hlower : c.toLower.val = c.val + ('a'.val - 'A'.val) := by
      rw [show c.toLower = _ from dif_pos (of_decide_eq_true hupper)]
    have hsmall : c.val.toNat ≤ 90 := (hrange.1 hupper).2
    rw [if_pos (hrange.1 hupper)]
    change c.toLower.val.toNat = c.val.toNat + 32
    rw [hlower, UInt32.toNat_add, hshift]
    omega
  · rw [if_neg (mt hrange.2 hupper)]
    exact congrArg Char.toNat (dif_neg fun h => hupper (decide_eq_true h))

/-- A capital letter comes 32 places before its small letter. -/
theorem toNat_toUpper (c : Char) :
    c.toUpper.toNat = if 97 ≤ c.toNat ∧ c.toNat ≤ 122 then c.toNat - 32 else c.toNat := by
  have hrange : ('a'.val ≤ c.val ∧ c.val ≤ 'z'.val) ↔ 97 ≤ c.toNat ∧ c.toNat ≤ 122 := by
    rw [UInt32.le_iff_toNat_le, UInt32.le_iff_toNat_le]
    exact Iff.rfl
  by_cases hlower : 97 ≤ c.toNat ∧ c.toNat ≤ 122
  · have hshift : ('A'.val - 'a'.val).toNat = 4294967264 := by decide
    have hupper : c.toUpper.val = c.val + ('A'.val - 'a'.val) := by
      rw [show c.toUpper = _ from dif_pos (hrange.2 hlower)]
    have hlarge : 97 ≤ c.val.toNat := hlower.1
    have hsmall : c.val.toNat ≤ 122 := hlower.2
    rw [if_pos hlower]
    change c.toUpper.val.toNat = c.val.toNat - 32
    rw [hupper, UInt32.toNat_add, hshift]
    omega
  · rw [if_neg hlower]
    exact congrArg Char.toNat (dif_neg (mt hrange.1 hlower))

/-- Characters with the same code are the same. -/
theorem char_eq_of_toNat {c d : Char} (h : c.toNat = d.toNat) : c = d :=
  Char.ext (UInt32.toNat_inj.1 h)

/-- A character that has the small form of a capital letter has the letter as its upper case. -/
theorem upperChar_of_toLower_eq {c d : Char} (hd : d.isUpper = true) (h : d.toLower = c.toLower) :
    upperChar c = [d] := by
  have hrange := (isUpper_iff_toNat d).1 hd
  have hcode := congrArg Char.toNat h
  rw [toNat_toLower, toNat_toLower, if_pos hrange] at hcode
  have hascii : c.toNat < 0x80 := by
    split at hcode <;> omega
  rw [upperChar, if_pos hascii]
  refine congrArg (fun letter => [letter]) (char_eq_of_toNat ?_)
  rw [toNat_toUpper]
  split at hcode <;> split <;> omega

/-- A text that differs from capital letters in case only has them as its upper case. -/
theorem upper_of_sameIgnoringCase {capitals text : String}
    (hcapitals : ∀ c ∈ capitals.toList, c.isUpper = true)
    (hsame : sameIgnoringCase capitals text = true) : upper text = capitals := by
  have hchars : ∀ cs ds : List Char, (∀ c ∈ cs, c.isUpper = true) →
      asciiLower cs = asciiLower ds → ds.flatMap upperChar = cs := by
    intro cs
    induction cs with
    | nil =>
      intro ds _ h
      rw [List.map_eq_nil_iff.1 h.symm, List.flatMap_nil]
    | cons c cs ih =>
      intro ds hupper h
      cases ds with
      | nil => simp [asciiLower] at h
      | cons d ds =>
        obtain ⟨hc, hcs⟩ := List.forall_mem_cons.1 hupper
        obtain ⟨hfirst, hrest⟩ := List.cons.inj h
        rw [List.flatMap_cons, upperChar_of_toLower_eq hc hfirst, ih ds hcs hrest]
        rfl
  rw [upper, hchars capitals.toList text.toList hcapitals (by simpa [sameIgnoringCase] using hsame),
    String.ofList_toList]

/-- A character that a code stands for has this code, unless it is the first of all. -/
theorem toNat_of_eq_ofNat {c : Char} {n : Nat} (hc : 0 < c.toNat) (h : c = Char.ofNat n) :
    c.toNat = n := by
  subst h
  by_cases hvalid : n.isValidChar
  · rw [show Char.ofNat n = Char.ofNatAux n hvalid from dif_pos hvalid]
    rfl
  · rw [show Char.ofNat n = '\x00' from dif_neg hvalid] at hc
    exact absurd hc (by decide)

/-- Among the characters before the letters, upper case gives those alone that were there. -/
theorem eq_of_mem_upperChar {c d : Char} (hc : 0 < c.toNat ∧ c.toNat < 65)
    (hmem : c ∈ upperChar d) : d = c := by
  have hsequences : ∀ entry ∈ upperSequences, ∀ n ∈ entry.2, 65 ≤ n := by decide +kernel
  have hruns : ∀ run ∈ upperRuns, 65 ≤ run.image := by decide +kernel
  rw [upperChar] at hmem
  split at hmem
  · refine char_eq_of_toNat ?_
    rw [List.mem_singleton.1 hmem, toNat_toUpper] at hc ⊢
    split at hc
    · omega
    · rw [if_neg ‹_›]
  · split at hmem
    · next letters hlookup =>
      obtain ⟨n, hn, hcode⟩ := List.mem_map.1 hmem
      obtain ⟨front, back, hsplit, -⟩ := List.lookup_eq_some_iff.1 hlookup
      have hlarge := hsequences (d.toNat, letters)
        (hsplit ▸ List.mem_append_right _ List.mem_cons_self) n hn
      have hcode := toNat_of_eq_ofNat hc.1 hcode.symm
      omega
    · split at hmem
      · next n hrun =>
        obtain ⟨run, hin, hupper⟩ := List.exists_of_findSome?_eq_some hrun
        rw [CaseRun.upper?] at hupper
        have hlarge := hruns run hin
        have hcode := toNat_of_eq_ofNat hc.1 (List.mem_singleton.1 hmem)
        split at hupper <;> cases hupper
        omega
      · exact (List.mem_singleton.1 hmem).symm

/-- Upper case brings no character before the letters into a text. -/
theorem notMem_upper {c : Char} (hc : 0 < c.toNat ∧ c.toNat < 65) {s : String}
    (hs : c ∉ s.toList) : c ∉ (upper s).toList := by
  intro h
  rw [upper, String.toList_ofList] at h
  obtain ⟨d, hd, hmem⟩ := List.mem_flatMap.1 h
  rw [eq_of_mem_upperChar hc hmem] at hd
  exact hs hd

end EdiSchema.Text
