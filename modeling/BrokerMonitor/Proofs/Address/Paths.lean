import BrokerMonitor.Proofs.Address.Coding
import BrokerMonitor.Url.Path
/-!
# Paths in normal form

The segments that are read from a path are coded, have no slash and are no dots. A path of such
segments is read as them: nothing is coded again, and no segment is left out or taken away.
-/

namespace BrokerMonitor.Url

/-! ## Segments in normal form -/

/-- A character that a path in normal form may have in a segment. -/
def isSegmentChar (c : Char) : Bool := !inPathSet c && c != '/' && c != '\\'

/-- A segment that stays as it is when it is read. -/
structure IsSegment (segment : List Char) : Prop where
  all : ∀ c ∈ segment, isSegmentChar c = true
  single : isSingleDot segment = false
  double : isDoubleDot segment = false

theorem isSegment_nil : IsSegment [] := ⟨by simp, rfl, rfl⟩

section Segment

variable {segment : List Char} {done segments : List (List Char)}

theorem removeLast_subset (done : List (List Char)) : removeLast done ⊆ done := by
  rw [removeLast]
  split
  · split
    · exact List.Subset.refl _
    · exact List.dropLast_subset done
  · exact List.Subset.refl _

/-- Whatever becomes of a segment, those that are kept are in normal form. -/
theorem forall_isSegment_closeSegment (hdone : ∀ s ∈ done, IsSegment s)
    (h : ∀ c ∈ segment, isSegmentChar c = true) :
    ∀ s ∈ closeSegment done segment, IsSegment s := by
  intro s hs
  rw [closeSegment] at hs
  split_ifs at hs with hdouble hsingle
  · exact hdone s (removeLast_subset done hs)
  · exact hdone s hs
  · rcases List.mem_append.1 hs with hs | hs
    · exact hdone s hs
    · rw [List.mem_singleton.1 hs]
      exact ⟨h, by simpa using hsingle, by simpa using hdouble⟩

theorem forall_isSegment_closeLast (hdone : ∀ s ∈ done, IsSegment s)
    (h : ∀ c ∈ segment, isSegmentChar c = true) :
    closeLast done segment ≠ [] ∧ ∀ s ∈ closeLast done segment, IsSegment s := by
  rw [closeLast]
  split_ifs with hdouble hsingle
  all_goals refine ⟨by simp, fun s hs => ?_⟩
  all_goals rcases List.mem_append.1 hs with hs | hs
  · exact hdone s (removeLast_subset done hs)
  · exact List.mem_singleton.1 hs ▸ isSegment_nil
  · exact hdone s hs
  · exact List.mem_singleton.1 hs ▸ isSegment_nil
  · exact hdone s hs
  · rw [List.mem_singleton.1 hs]
    exact ⟨h, by simpa using hsingle, by simpa using hdouble⟩

theorem forall_isSegment_closeAll (hne : segments ≠ []) (hdone : ∀ s ∈ done, IsSegment s)
    (h : ∀ s ∈ segments, ∀ c ∈ s, isSegmentChar c = true) :
    closeAll done segments ≠ [] ∧ ∀ s ∈ closeAll done segments, IsSegment s := by
  induction segments generalizing done with
  | nil => exact absurd rfl hne
  | cons segment segments ih =>
      obtain ⟨hsegment, hsegments⟩ := List.forall_mem_cons.1 h
      cases segments with
      | nil => exact forall_isSegment_closeLast hdone hsegment
      | cons next segments =>
          exact ih (by simp) (forall_isSegment_closeSegment hdone hsegment) hsegments

/-- Segments in normal form are kept. -/
theorem closeAll_of_isSegment (h : ∀ s ∈ segments, IsSegment s) :
    closeAll done segments = done ++ segments := by
  induction segments generalizing done with
  | nil => simp [closeAll]
  | cons segment segments ih =>
      obtain ⟨hsegment, hsegments⟩ := List.forall_mem_cons.1 h
      cases segments with
      | nil => simp [closeAll, closeLast, hsegment.single, hsegment.double]
      | cons next segments =>
          rw [closeAll, closeSegment, hsegment.double, hsegment.single, ih hsegments]
          · simp
          · simp

end Segment

/-! ## Cutting at slashes -/

def isPathSlash (c : Char) : Bool := c == '/' || c == '\\'

theorem cutSlashes_eq_splitOnP (text : List Char) :
    cutSlashes text = text.splitOnP isPathSlash := by
  induction text with
  | nil => rfl
  | cons c text ih =>
      have hne := @List.splitOnP_ne_nil _ isPathSlash text
      rw [cutSlashes, ih, List.splitOnP_cons_eq_if_modifyHead]
      by_cases hc : isPathSlash c = true
      · rw [if_pos hc, if_pos (by simpa [isPathSlash] using hc)]
      · rw [if_neg hc, if_neg (by simpa [isPathSlash] using hc)]
        cases hparts : text.splitOnP isPathSlash with
        | nil => exact absurd hparts hne
        | cons first others => rfl

/-! ## Paths -/

/-- A path as it is read: segments in normal form, and at least one. -/
structure IsPath (segments : List String) : Prop where
  ne_nil : segments ≠ []
  all : ∀ s ∈ segments, IsSegment s.toList

theorem isSegmentChar_of_mem_encode {part : List Char} (h : ∀ c ∈ part, isPathSlash c = false)
    {c : Char} (hc : c ∈ encode inPathSet part) : isSegmentChar c = true := by
  have hset := isCodeSet_inPathSet.of_mem_encode hc
  have hslash : isPathSlash c = false := by
    rcases mem_encode hc with ⟨hc, -⟩ | rfl | ⟨n, hn, rfl⟩
    · exact h c hc
    · decide
    · have hall : ∀ n < 16, isPathSlash (hexDigit n) = false := by decide
      exact hall n hn
  simp_all [isSegmentChar, isPathSlash]

theorem exists_parsePath_eq (text : List Char) :
    ∃ body, parsePath text =
      (closeAll [] ((cutSlashes body).map (encode inPathSet))).map String.ofList := ⟨_, rfl⟩

/-- Whatever is read as a path is in normal form. -/
theorem isPath_parsePath (text : List Char) : IsPath (parsePath text) := by
  obtain ⟨body, hbody⟩ := exists_parsePath_eq text
  rw [hbody, cutSlashes_eq_splitOnP]
  have hsegment : ∀ s ∈ (body.splitOnP isPathSlash).map (encode inPathSet),
      ∀ c ∈ s, isSegmentChar c = true := by
    intro s hs c hc
    obtain ⟨part, hpart, rfl⟩ := List.mem_map.1 hs
    exact isSegmentChar_of_mem_encode (Text.of_mem_splitOnP hpart).1 hc
  obtain ⟨hnil, hall⟩ := @forall_isSegment_closeAll [] _ (by simp) (by simp) hsegment
  exact ⟨by simpa using hnil, by simpa using hall⟩

theorem toList_pathText (segments : List String) :
    (pathText segments).toList = segments.flatMap fun s => '/' :: s.toList := by
  rw [pathText, String.toList_join, List.flatMap_map]
  simp

variable {segments : List String}

theorem IsPath.exists_eq_cons (h : IsPath segments) :
    ∃ rest, (pathText segments).toList = '/' :: rest := by
  cases segments with
  | nil => exact absurd rfl h.ne_nil
  | cons first others => exact ⟨_, by rw [toList_pathText, List.flatMap_cons]; rfl⟩

theorem IsPath.isPrintable (h : IsPath segments) {c : Char} (hc : c ∈ (pathText segments).toList) :
    Text.isPrintable c = true ∧ c ≠ '?' ∧ c ≠ '#' := by
  rw [toList_pathText] at hc
  obtain ⟨s, hs, hc⟩ := List.mem_flatMap.1 hc
  rcases List.mem_cons.1 hc with rfl | hc
  · decide
  · have hchar := (h.all s hs).all c hc
    simp only [isSegmentChar, Bool.and_eq_true, Bool.not_eq_true'] at hchar
    obtain ⟨⟨hset, -⟩, -⟩ := hchar
    refine ⟨isPrintable_of_inPathSet hset, ?_, ?_⟩ <;> rintro rfl <;> revert hset <;> decide

/-- Segments without slashes are cut apart at the slashes between them. -/
theorem splitOnP_segments {first : List Char} {others : List (List Char)}
    (h : ∀ s ∈ first :: others, ∀ c ∈ s, isPathSlash c = false) :
    (first ++ others.flatMap ('/' :: ·)).splitOnP isPathSlash = first :: others := by
  induction others generalizing first with
  | nil =>
      rw [List.flatMap_nil, List.append_nil,
        List.splitOnP_eq_singleton (h first List.mem_cons_self)]
  | cons second others ih =>
      obtain ⟨hfirst, hothers⟩ := List.forall_mem_cons.1 h
      rw [List.flatMap_cons, List.cons_append,
        List.splitOnP_append_cons_of_forall_mem hfirst '/' (by decide), ih hothers]

/-- A path in normal form is read as it is. -/
theorem parsePath_pathText (h : IsPath segments) :
    parsePath (pathText segments).toList = segments := by
  cases segments with
  | nil => exact absurd rfl h.ne_nil
  | cons first others =>
      have hslash : ∀ s ∈ (first :: others).map String.toList, ∀ c ∈ s, isPathSlash c = false := by
        rintro _ hs c hc
        obtain ⟨s, hsegment, rfl⟩ := List.mem_map.1 hs
        have hchar := (h.all s hsegment).all c hc
        simp_all [isSegmentChar, isPathSlash]
      have hencode : ((first :: others).map String.toList).map (encode inPathSet) =
          (first :: others).map String.toList := by
        rw [List.map_map]
        refine List.map_congr_left fun s hs => encode_of_forall_not fun c hc => ?_
        have hchar := (h.all s hs).all c hc
        simp_all [isSegmentChar]
      have hbody : (pathText (first :: others)).toList =
          '/' :: (first.toList ++ (others.map String.toList).flatMap ('/' :: ·)) := by
        rw [toList_pathText, List.flatMap_map]
        rfl
      have hall : ∀ s ∈ (first :: others).map String.toList, IsSegment s := by
        simpa using h.all
      have hcut := splitOnP_segments hslash
      rw [hbody, parsePath, cutSlashes_eq_splitOnP, hcut, ← List.map_cons, hencode,
        closeAll_of_isSegment hall]
      simp

end BrokerMonitor.Url
