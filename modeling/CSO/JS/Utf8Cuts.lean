import CSO.JS.Utf8

/-! Slices of the bytes of a text that are decoded one by one. -/
namespace CSO.JS.Utf8
open Pending

namespace Pending

/-- What a decoder has read and where it stands after bytes that need not be the last. -/
def run : Pending → List UInt8 → List Char × Pending
  | p, [] => ([], p)
  | p, b :: bytes =>
    let rest := (p.step b.toNat).2.run bytes
    ((p.step b.toNat).1 ++ rest.1, rest.2)

theorem decode_append (p : Pending) (bytes more : List UInt8) :
    p.decode (bytes ++ more) = (p.run bytes).1 ++ (p.run bytes).2.decode more := by
  induction bytes generalizing p with
  | nil => rfl
  | cons b bytes ih => rw [List.cons_append, decode_cons, ih, run, List.append_assoc]

theorem decode_eq_run (p : Pending) (bytes : List UInt8) :
    p.decode bytes = (p.run bytes).1 ++ (p.run bytes).2.decode [] := by
  rw [← decode_append, List.append_nil]

theorem lead_silent {b : ℕ} (h : (lead b).1 = []) : (lead b).2.needed ≠ 0 := by
  unfold lead at h ⊢
  by_cases hone : b < 0x80
  · rw [if_pos hone] at h
    exact absurd h (List.cons_ne_nil _ _)
  · rw [if_neg hone] at h ⊢
    by_cases htwo : 0xC2 ≤ b ∧ b ≤ 0xDF
    · rw [if_pos htwo]
      exact Nat.one_ne_zero
    · rw [if_neg htwo] at h ⊢
      by_cases hthree : 0xE0 ≤ b ∧ b ≤ 0xEF
      · rw [if_pos hthree]
        exact Nat.succ_ne_zero 1
      · rw [if_neg hthree] at h ⊢
        by_cases hfour : 0xF0 ≤ b ∧ b ≤ 0xF4
        · rw [if_pos hfour]
          exact Nat.succ_ne_zero 2
        · rw [if_neg hfour] at h
          exact absurd h (List.cons_ne_nil _ _)

/-- A byte that gives no character leaves one to be finished. -/
theorem step_silent {p : Pending} {b : ℕ} (h : (p.step b).1 = []) : (p.step b).2.needed ≠ 0 := by
  unfold step at h ⊢
  by_cases hstart : p.needed = 0
  · rw [if_pos hstart] at h ⊢
    exact lead_silent h
  · rw [if_neg hstart] at h ⊢
    by_cases hrange : p.lower ≤ b ∧ b ≤ p.upper
    · rw [if_pos hrange] at h ⊢
      by_cases hlast : p.needed = 1
      · rw [if_pos hlast] at h
        exact absurd h (List.cons_ne_nil _ _)
      · rw [if_neg hlast]
        have hneeded : p.needed - 1 ≠ 0 := by omega
        exact hneeded
    · rw [if_neg hrange] at h
      exact absurd h (List.cons_ne_nil _ _)

/-- Bytes give a character, and so does the end in the middle of one. -/
theorem decode_ne_nil {p : Pending} {bytes : List UInt8} (h : p.needed ≠ 0 ∨ bytes ≠ []) :
    p.decode bytes ≠ [] := by
  induction bytes generalizing p with
  | nil =>
    have hneeded : p.needed ≠ 0 := h.resolve_right (not_not_intro rfl)
    rw [decode, if_neg hneeded]
    exact List.cons_ne_nil _ _
  | cons b bytes ih =>
    intro hempty
    rw [decode_cons] at hempty
    have hparts := List.append_eq_nil_iff.mp hempty
    exact ih (.inl (step_silent hparts.1)) hparts.2

end Pending

theorem encode_append (cs ds : List Char) : encode (cs ++ ds) = encode cs ++ encode ds :=
  List.flatMap_append

theorem decode_encode_append (cs : List Char) (bytes : List UInt8) :
    decode (encode cs ++ bytes) = cs ++ decode bytes := by
  induction cs with
  | nil => rfl
  | cons c cs ih =>
    rw [encode, List.flatMap_cons, List.append_assoc, decode, decode_utf8EncodeChar]
    exact congrArg (c :: ·) ih

/-- The first bytes of a character, without the others, are read as one replacement. -/
theorem decode_cut {c : Char} {bytes more : List UInt8}
    (h : String.utf8EncodeChar c = bytes ++ more) (hbytes : bytes ≠ []) (hmore : more ≠ []) :
    decode bytes = [replacement] := by
  have hwhole : (start.run bytes).1 ++ (start.run bytes).2.decode more = [c] := by
    have hchar := decode_utf8EncodeChar c []
    rw [List.append_nil, h, decode_append] at hchar
    exact hchar
  have hlate : (start.run bytes).2.decode more ≠ [] := decode_ne_nil (.inr hmore)
  have hsilent : (start.run bytes).1 = [] := by
    cases hread : (start.run bytes).1 with
    | nil => rfl
    | cons d ds =>
      rw [hread, List.cons_append] at hwhole
      have hrest := List.append_eq_nil_iff.mp (List.tail_eq_of_cons_eq hwhole)
      exact absurd hrest.2 hlate
  have hread := decode_eq_run start bytes
  rw [hsilent, List.nil_append] at hread
  have hsome : decode bytes ≠ [] := decode_ne_nil (.inr hbytes)
  rw [decode, hread] at hsome ⊢
  rw [Pending.decode] at hsome ⊢
  by_cases hneeded : (start.run bytes).2.needed = 0
  · exact absurd (if_pos hneeded) hsome
  · rw [if_neg hneeded]

/-- A byte that goes on with a character. -/
def IsContinuation (b : UInt8) : Prop := 0x80 ≤ b.toNat ∧ b.toNat ≤ 0xBF

/-- After the first byte of a character come such bytes only. -/
theorem continuation_of_tail (c : Char) :
    ∀ b ∈ (String.utf8EncodeChar c).tail, IsContinuation b := by
  have hlow : ∀ n, IsContinuation (UInt8.ofNat (n % 0x40 + 0x80)) := by
    intro n
    rw [IsContinuation, toNat_ofNat_of_lt (by omega)]
    omega
  intro b hb
  unfold String.utf8EncodeChar at hb
  extract_lets v at hb
  split_ifs at hb
  · cases hb
  · rw [List.tail_cons, List.mem_singleton] at hb
    exact hb ▸ hlow _
  · simp only [List.tail_cons, List.mem_cons, List.not_mem_nil, or_false] at hb
    rcases hb with rfl | rfl
    · exact hlow _
    · exact hlow _
  · simp only [List.tail_cons, List.mem_cons, List.not_mem_nil, or_false] at hb
    rcases hb with rfl | rfl | rfl
    · exact hlow _
    · exact hlow _
    · exact hlow _

/-- On their own they are replaced one by one. -/
theorem decode_continuation {tail : List UInt8} (h : ∀ b ∈ tail, IsContinuation b)
    (bytes : List UInt8) :
    decode (tail ++ bytes) = List.replicate tail.length replacement ++ decode bytes := by
  induction tail with
  | nil => rfl
  | cons b tail ih =>
    have hb := h b List.mem_cons_self
    have hlead : lead b.toNat = ([replacement], start) := by
      rw [IsContinuation] at hb
      rw [lead, if_neg (by omega), if_neg (by omega), if_neg (by omega), if_neg (by omega)]
    have hrest := ih fun x hx => h x (List.mem_cons_of_mem b hx)
    rw [decode] at hrest
    rw [List.cons_append, decode, decode_cons, step_start, hlead, List.length_cons,
      List.replicate_succ]
    exact congrArg (replacement :: ·) hrest

/-- A cut through the bytes of a text falls between two characters or within one. -/
theorem encode_cut {cs : List Char} {bytes more : List UInt8} (h : encode cs = bytes ++ more) :
    (∃ before after, cs = before ++ after ∧ bytes = encode before ∧ more = encode after) ∨
      ∃ before c after first last, cs = before ++ c :: after ∧
        String.utf8EncodeChar c = first ++ last ∧ first ≠ [] ∧ last ≠ [] ∧
        bytes = encode before ++ first ∧ more = last ++ encode after := by
  induction cs generalizing bytes with
  | nil =>
    have hparts := List.append_eq_nil_iff.mp h.symm
    exact .inl ⟨[], [], rfl, hparts.1, hparts.2⟩
  | cons c cs ih =>
    have hcons : String.utf8EncodeChar c ++ encode cs = bytes ++ more := h
    rcases List.append_eq_append_iff.mp hcons with ⟨rest, hbytes, hrest⟩ | ⟨last, hchar, hmore⟩
    · rcases ih hrest with ⟨before, after, hcs, hbefore, hafter⟩ |
        ⟨before, d, after, first, last, hcs, hd, hfirst, hlast, hbefore, hafter⟩
      · refine .inl ⟨c :: before, after, by rw [hcs, List.cons_append], ?_, hafter⟩
        rw [hbytes, hbefore]
        rfl
      · refine .inr ⟨c :: before, d, after, first, last, by rw [hcs, List.cons_append], hd, hfirst,
          hlast, ?_, hafter⟩
        rw [hbytes, hbefore, ← List.append_assoc]
        rfl
    · by_cases hlast : last = []
      · rw [hlast, List.append_nil] at hchar
        rw [hlast, List.nil_append] at hmore
        refine .inl ⟨[c], cs, rfl, ?_, hmore⟩
        rw [← hchar]
        exact (List.append_nil _).symm
      · by_cases hfirst : bytes = []
        · refine .inl ⟨[], c :: cs, rfl, hfirst, ?_⟩
          rw [hmore]
          rw [hfirst, List.nil_append] at hchar
          rw [← hchar]
          rfl
        · exact .inr ⟨[], c, cs, bytes, last, rfl, hchar, hfirst, hlast, rfl, hmore⟩

/-- What is left of a character that is cut begins with none. -/
theorem continuation_of_last {c : Char} {first last : List UInt8}
    (h : String.utf8EncodeChar c = first ++ last) (hfirst : first ≠ []) :
    ∀ b ∈ last, IsContinuation b := by
  intro b hb
  refine continuation_of_tail c b ?_
  rw [h, List.tail_append_of_ne_nil hfirst]
  exact List.mem_append_right first.tail hb

section

variable {keep : Char → Bool}

theorem length_filter_cons_le (c : Char) (cs : List Char) :
    ((c :: cs).filter keep).length ≤ (cs.filter keep).length + 1 := by
  rw [List.filter_cons]
  split_ifs
  · exact Nat.le_refl _
  · exact Nat.le_succ _

/-- Slices that begin within a character give at least a character of their own for each of its
bytes that is left. -/
theorem length_filter_slices (hkeep : keep replacement = true) {tail : List UInt8}
    (htail : ∀ b ∈ tail, IsContinuation b) (cs : List Char) (slices : List (List UInt8))
    (h : slices.flatten = tail ++ encode cs) :
    tail.length + (cs.filter keep).length ≤ ((slices.flatMap decode).filter keep).length := by
  induction slices generalizing tail cs with
  | nil =>
    have hparts := List.append_eq_nil_iff.mp h.symm
    have hcs : cs = [] := by rw [← decode_encode cs, hparts.2]; rfl
    rw [hparts.1, hcs]
    exact Nat.le_refl 0
  | cons slice slices ih =>
    rw [List.flatten_cons] at h
    rw [List.flatMap_cons, List.filter_append, List.length_append]
    rcases List.append_eq_append_iff.mp h with ⟨rest, htailEq, hrest⟩ | ⟨more, hslice, hmore⟩
    · -- The slice ends before the rest of the character does.
      have hmem : ∀ b ∈ slice, IsContinuation b := fun b hb =>
        htail b (by rw [htailEq]; exact List.mem_append_left rest hb)
      have hread := decode_continuation hmem []
      rw [List.append_nil] at hread
      have hnext := ih (fun b hb => htail b (by rw [htailEq]; exact List.mem_append_right slice hb))
        cs hrest
      have hown : ((decode slice).filter keep).length = slice.length := by
        rw [hread, List.filter_append, List.filter_replicate_of_pos hkeep, List.length_append,
          List.length_replicate]
        rfl
      have hlength : tail.length = slice.length + rest.length := by
        rw [htailEq, List.length_append]
      omega
    · have hread : ((decode slice).filter keep).length =
          tail.length + ((decode more).filter keep).length := by
        rw [hslice, decode_continuation htail, List.filter_append,
          List.filter_replicate_of_pos hkeep, List.length_append, List.length_replicate]
      rcases encode_cut hmore with ⟨before, after, hcs, hbefore, hafter⟩ |
        ⟨before, c, after, first, last, hcs, hchar, hfirst, hlast, hbefore, hafter⟩
      · have hnext := ih (fun b hb => absurd hb List.not_mem_nil) after hafter
        have hown : decode more = before := by rw [hbefore, decode_encode]
        rw [hown] at hread
        rw [hcs, List.filter_append, List.length_append]
        simp only [List.length_nil] at hnext
        omega
      · have hnext := ih (continuation_of_last hchar hfirst) after hafter
        have hown : decode more = before ++ [replacement] := by
          rw [hbefore, decode_encode_append, decode_cut hchar hfirst hlast]
        have hpositive : 0 < last.length := List.length_pos_of_ne_nil hlast
        have hkept : ((c :: after).filter keep).length ≤ _ := length_filter_cons_le c after
        rw [hown, List.filter_append, List.length_append, List.filter_cons_of_pos hkeep] at hread
        rw [hcs, List.filter_append, List.length_append]
        simp only [List.filter_nil, List.length_singleton] at hread
        omega

/-- Slices that lose nothing are the bytes of consecutive parts of the text. -/
theorem slices_of_filter (hkeep : keep replacement = true) (cs : List Char)
    (slices : List (List UInt8)) (h : slices.flatten = encode cs)
    (hsame : ((slices.flatMap decode).filter keep).length = (cs.filter keep).length) :
    ∃ parts : List (List Char), parts.flatten = cs ∧ parts.map encode = slices := by
  induction slices generalizing cs with
  | nil =>
    have hcs : cs = [] := by rw [← decode_encode cs, ← h]; rfl
    exact ⟨[], hcs.symm, rfl⟩
  | cons slice slices ih =>
    rw [List.flatten_cons] at h
    rw [List.flatMap_cons, List.filter_append, List.length_append] at hsame
    rcases encode_cut h.symm with ⟨before, after, hcs, hbefore, hafter⟩ |
      ⟨before, c, after, first, last, hcs, hchar, hfirst, hlast, hbefore, hafter⟩
    · have hown : decode slice = before := by rw [hbefore, decode_encode]
      rw [hown, hcs, List.filter_append, List.length_append] at hsame
      obtain ⟨parts, hparts, hmap⟩ := ih after hafter (by omega)
      exact ⟨before :: parts, by rw [List.flatten_cons, hparts, hcs],
        by rw [List.map_cons, hmap, hbefore]⟩
    · exfalso
      have hnext := length_filter_slices hkeep (continuation_of_last hchar hfirst) after slices
        hafter
      have hown : decode slice = before ++ [replacement] := by
        rw [hbefore, decode_encode_append, decode_cut hchar hfirst hlast]
      have hpositive : 0 < last.length := List.length_pos_of_ne_nil hlast
      have hkept : ((c :: after).filter keep).length ≤ _ := length_filter_cons_le c after
      rw [hown, hcs, List.filter_append, List.filter_append, List.length_append, List.length_append,
        List.filter_cons_of_pos hkeep] at hsame
      simp only [List.filter_nil, List.length_singleton] at hsame
      omega

end

end CSO.JS.Utf8
