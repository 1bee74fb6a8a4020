import BrokerMonitor.Unicode.Table
import Mathlib.Data.List.TakeDrop
/-!
# Texts of an address

What holds of every ASCII character by looking at each of them. A text that is put together from
parts is cut into the same parts, as long as no part contains what it is cut at.
-/

namespace BrokerMonitor

/-- What holds of the first 128 characters holds of every ASCII character. -/
theorem Text.forall_ascii {P : Char → Prop} (h : ∀ n < 128, P (Char.ofNat n)) {c : Char}
    (hc : c.toNat < 128) : P c := by
  have hp := h c.toNat hc
  rwa [Char.ofNat_toNat] at hp

section Option

variable {α β : Type} {f : α → Option β} {l : List α} {l' : List β}

/-- All results are there if each of them is. -/
theorem Text.mapM_eq_some_iff : l.mapM f = some l' ↔ l.map f = l'.map some := by
  induction l generalizing l' with
  | nil => cases l' <;> simp
  | cons a l ih =>
      rw [List.mapM_cons]
      cases l' with
      | nil => simp [Option.bind_eq_some_iff]
      | cons b l' => simp [Option.bind_eq_some_iff, ← ih]

theorem Text.mapM_eq_none {a : α} (ha : a ∈ l) (h : f a = none) : l.mapM f = none := by
  cases hl : l.mapM f with
  | none => rfl
  | some l' =>
      have hmem : f a ∈ l'.map some := mapM_eq_some_iff.1 hl ▸ List.mem_map_of_mem ha
      simp [h] at hmem

theorem Text.exists_of_mapM_eq_some {b : β} (h : l.mapM f = some l') (hb : b ∈ l') :
    ∃ a ∈ l, f a = some b := by
  have hmem : some b ∈ l.map f := mapM_eq_some_iff.1 h ▸ List.mem_map_of_mem hb
  exact List.mem_map.1 hmem

/-- What undoes each step undoes them all. -/
theorem Text.mapM_of_inverse {g : β → Option α} (h : l.mapM f = some l')
    (hg : ∀ a ∈ l, ∀ b ∈ l', f a = some b → g b = some a) : l'.mapM g = some l := by
  rw [mapM_eq_some_iff] at h ⊢
  induction l generalizing l' with
  | nil => simp_all
  | cons a l ih =>
      cases l' with
      | nil => simp at h
      | cons b l' =>
          simp only [List.map_cons, List.cons.injEq] at h ⊢
          exact ⟨hg a List.mem_cons_self b List.mem_cons_self h.1,
            ih h.2 fun a ha b hb => hg a (List.mem_cons_of_mem _ ha) b (List.mem_cons_of_mem _ hb)⟩

end Option

theorem Text.span_append {p : Char → Bool} {front back : List Char}
    (hfront : ∀ c ∈ front, p c = true) (hback : ∀ c ∈ back.head?, p c = false) :
    (front ++ back).span p = (front, back) := by
  have hstop : back.takeWhile p = [] ∧ back.dropWhile p = back := by
    cases back with
    | nil => exact ⟨rfl, rfl⟩
    | cons c back =>
        have hc := hback c rfl
        exact ⟨List.takeWhile_cons_of_neg (by simp [hc]), List.dropWhile_cons_of_neg (by simp [hc])⟩
  rw [List.span_eq_takeWhile_dropWhile, List.takeWhile_append_of_pos hfront,
    List.dropWhile_append_of_pos hfront, hstop.1, hstop.2, List.append_nil]

theorem Text.span_eq_self {p : Char → Bool} {text : List Char} (h : ∀ c ∈ text, p c = true) :
    text.span p = (text, []) := by
  simpa using @span_append p text [] h (by simp)

/-- A part holds characters of the text, but none that the text is cut at. -/
theorem Text.of_mem_splitOnP {p : Char → Bool} {text part : List Char}
    (h : part ∈ text.splitOnP p) : (∀ c ∈ part, p c = false) ∧ part ⊆ text := by
  induction text generalizing part with
  | nil => simp_all
  | cons c text ih =>
      rw [List.splitOnP_cons_eq_if_modifyHead] at h
      split at h
      · rcases List.mem_cons.1 h with rfl | h
        · simp
        · exact ⟨(ih h).1, List.subset_cons_of_subset _ (ih h).2⟩
      · rename_i hc
        cases hparts : text.splitOnP p with
        | nil => exact absurd hparts (List.splitOnP_ne_nil p text)
        | cons first others =>
            simp only [hparts, List.modifyHead_cons, List.mem_cons] at h ih
            rcases h with rfl | h
            · obtain ⟨hnot, hsubset⟩ := ih (.inl rfl)
              exact ⟨List.forall_mem_cons.2 ⟨by simpa using hc, hnot⟩,
                List.cons_subset_cons _ hsubset⟩
            · obtain ⟨hnot, hsubset⟩ := ih (.inr h)
              exact ⟨hnot, List.subset_cons_of_subset _ hsubset⟩

theorem Text.mem_intercalate {sep c : Char} {parts : List (List Char)}
    (h : c ∈ [sep].intercalate parts) : c = sep ∨ ∃ part ∈ parts, c ∈ part := by
  induction parts with
  | nil => simp at h
  | cons part parts ih =>
      cases parts with
      | nil => exact .inr ⟨part, List.mem_cons_self, by simpa using h⟩
      | cons next parts =>
          rw [List.intercalate_cons_cons, List.append_assoc] at h
          rcases List.mem_append.1 h with h | h
          · exact .inr ⟨part, List.mem_cons_self, h⟩
          · rcases List.mem_cons.1 h with rfl | h
            · exact .inl rfl
            · obtain rfl | ⟨part, hpart, hc⟩ := ih h
              · exact .inl rfl
              · exact .inr ⟨part, List.mem_cons_of_mem _ hpart, hc⟩

namespace Unicode.Table

theorem cut_eq_splitOn (sep : Char) (text : List Char) : cut sep text = text.splitOn sep := by
  induction text with
  | nil => rfl
  | cons c text ih =>
      rw [cut, ih, List.splitOn_cons_eq_if_modifyHead]
      by_cases hc : c = sep
      · simp [hc]
      · have hne := List.splitOn_ne_nil sep text
        cases hparts : text.splitOn sep with
        | nil => exact absurd hparts hne
        | cons first others => simp [hc]

/-- Parts without the separator are cut apart where they were joined. -/
theorem cut_intercalate {sep : Char} {parts : List (List Char)} (h : ∀ part ∈ parts, sep ∉ part)
    (hne : parts ≠ []) : cut sep ([sep].intercalate parts) = parts := by
  rw [cut_eq_splitOn, List.splitOn_intercalate sep h hne]

theorem intercalate_cut (sep : Char) (text : List Char) :
    [sep].intercalate (cut sep text) = text := by
  rw [cut_eq_splitOn, List.intercalate_splitOn]

theorem of_mem_cut {sep : Char} {text part : List Char} (h : part ∈ cut sep text) :
    sep ∉ part ∧ part ⊆ text := by
  rw [cut_eq_splitOn, List.splitOn_eq_splitOnP] at h
  obtain ⟨hnot, hsubset⟩ := Text.of_mem_splitOnP h
  exact ⟨fun hmem => by simpa using hnot sep hmem, hsubset⟩

end Unicode.Table

end BrokerMonitor
