import OutageLedger.Proofs.Text.Percent
import OutageLedger.Text.Form

/-
  Forms read back. No name and no value has an ampersand, an equals sign, a plus sign or a blank left in it once
  it is encoded, so the marks between the parts are the only ones of their kind, and every plus sign stands for a
  blank. Main statement: `Form.decode_encode`, the pairs of a form are read back whatever is in them.
-/

namespace OutageLedger.Text

theorem Utf8.decodeLossy_encode (cs : List Char) : decodeLossy (encode cs) = cs := by
  induction cs with
  | nil =>
    rw [encode, List.flatMap_nil, decodeLossy]
  | cons c cs ih =>
    obtain ⟨b, bs, hbytes, hscan⟩ := scan_encodeChar c (encode cs)
    have hsplit : encode (c :: cs) = b :: (bs ++ encode cs) := by
      rw [encode, List.flatMap_cons, hbytes]
      rfl
    rw [hsplit, decodeLossy, hscan]
    dsimp only
    rw [List.drop_left, ih, Option.getD_some]

namespace Form

/-! ## Names and values -/

/-- A mark other than a blank that does not stand for itself is in no encoded part. -/
theorem not_mem_part {c : Char} (hplain : isPlain c = false) (hblank : c ≠ ' ') (hplus : c ≠ '+') (hpercent : c ≠ '%')
    (hdigit : isHexDigit c = false) (s : String) : c ∉ part s := by
  intro h
  obtain ⟨d, hd, rfl⟩ := List.mem_map.mp h
  by_cases hdblank : d = ' '
  · exact hplus (if_pos hdblank)
  · rw [if_neg hdblank] at hplain hblank hpercent hdigit
    refine not_mem_percentEncode ?_ hpercent hdigit s.toList hd
    rw [hplain, bne_iff_ne.mpr hblank]
    rfl

/-- A plus sign for each blank, and a blank again for each plus sign. -/
theorem map_blank_part (s : String) :
    ((part s).map fun c => if c = '+' then ' ' else c) =
      percentEncode (fun c => !isPlain c && c != ' ') s.toList := by
  have hplus : '+' ∉ percentEncode (fun c => !isPlain c && c != ' ') s.toList :=
    not_mem_percentEncode (by decide) (by decide) (by decide) s.toList
  unfold part
  rw [List.map_map]
  refine (List.map_congr_left fun c hc => ?_).trans (List.map_id _)
  show (if (if c = ' ' then '+' else c) = '+' then ' ' else if c = ' ' then '+' else c) = c
  by_cases hblank : c = ' '
  · rw [if_pos hblank, if_pos rfl, hblank]
  · have hkept : c ≠ '+' := by
      rintro rfl
      exact hplus hc
    rw [if_neg hblank, if_neg hkept]

theorem partText_part (s : String) : partText (part s) = s := by
  unfold partText partBytes
  rw [map_blank_part, percentDecode_percentEncode (by decide), Utf8.decodeLossy_encode, String.ofList_toList]

/-! ## Pairs -/

theorem splitPair_pair (name value : String) : splitPair (pair name value) = (name, value) := by
  have hname : ∀ c ∈ part name, (c != '=') = true := by
    intro c hc
    rw [bne_iff_ne]
    rintro rfl
    exact not_mem_part (by decide) (by decide) (by decide) (by decide) (by decide) name hc
  unfold splitPair pair
  rw [List.takeWhile_append_of_pos hname, List.dropWhile_append_of_pos hname]
  show (partText (part name ++ []), partText (part value)) = _
  rw [List.append_nil, partText_part, partText_part]

theorem ampersand_not_mem_pair (name value : String) : '&' ∉ pair name value := by
  have hpart : ∀ s, '&' ∉ part s := not_mem_part (by decide) (by decide) (by decide) (by decide) (by decide)
  unfold pair
  rw [List.mem_append, List.mem_cons, not_or, not_or]
  exact ⟨hpart name, by decide, hpart value⟩

theorem pair_ne_nil (name value : String) : pair name value ≠ [] :=
  List.append_ne_nil_of_right_ne_nil _ (List.cons_ne_nil _ _)

/-- The pairs of a form read back. -/
theorem decode_encode (pairs : List (String × String)) : decode (encode pairs) = pairs := by
  cases pairs with
  | nil => rfl
  | cons first rest =>
    let texts := (first :: rest).map fun p => pair p.1 p.2
    have hampersand : ∀ text ∈ texts, '&' ∉ text := by
      intro text htext
      obtain ⟨p, -, rfl⟩ := List.mem_map.mp htext
      exact ampersand_not_mem_pair p.1 p.2
    have hsplit : (encode (first :: rest)).splitOn '&' = texts :=
      List.splitOn_intercalate '&' hampersand (List.cons_ne_nil _ _)
    have hkept : texts.filter (!·.isEmpty) = texts := by
      rw [List.filter_eq_self]
      intro text htext
      obtain ⟨p, -, rfl⟩ := List.mem_map.mp htext
      simp [pair_ne_nil]
    unfold decode
    rw [hsplit, hkept, List.map_map]
    exact (List.map_congr_left fun p _ => splitPair_pair p.1 p.2).trans (List.map_id _)

theorem encode_ne_nil {pairs : List (String × String)} (h : pairs ≠ []) : encode pairs ≠ [] := by
  intro hempty
  have hread := decode_encode pairs
  rw [hempty] at hread
  exact h hread.symm

/-! ## Values by their names -/

/-- The values that pairs give for a name, in order. -/
def valuesOf (pairs : List (String × String)) (name : String) : List String :=
  (pairs.filter (·.1 == name)).map (·.2)

section

variable (pairs pairs' : List (String × String)) (key value name : String)

@[simp]
theorem valuesOf_nil : valuesOf [] name = [] :=
  rfl

@[simp]
theorem valuesOf_append : valuesOf (pairs ++ pairs') name = valuesOf pairs name ++ valuesOf pairs' name := by
  unfold valuesOf
  rw [List.filter_append, List.map_append]

@[simp]
theorem valuesOf_cons :
    valuesOf ((key, value) :: pairs) name =
      if key = name then value :: valuesOf pairs name else valuesOf pairs name := by
  unfold valuesOf
  rw [List.filter_cons]
  simp only [beq_iff_eq]
  split <;> rfl

/-- Pairs with one key give all their values for it, and none for another name. -/
theorem valuesOf_map {α : Type} (f : α → String) (as : List α) :
    valuesOf (as.map fun a => (key, f a)) name = if key = name then as.map f else [] := by
  induction as with
  | nil => rw [List.map_nil, List.map_nil, valuesOf_nil, ite_self]
  | cons a as ih =>
    rw [List.map_cons, valuesOf_cons, ih]
    split <;> rfl

end

end Form

end OutageLedger.Text
