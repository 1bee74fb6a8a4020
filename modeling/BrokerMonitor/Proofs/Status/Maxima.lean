import Mathlib.Data.List.Perm.Subperm
import BrokerMonitor.Error.MonitorError
import BrokerMonitor.Proofs.Run.Reading
/-!
# A reporter's running maxima

A reporter compares a status with the last one that it passed on, and knows no other. That one is
the highest of all that it was told (`Tops`), so a status is news exactly if it is above every
status before it. What is passed on are thus the strict running maxima of what is said, and there
are no more of them than there are statuses.

Codes reach a reporter by way of the statuses that they stand for. A code that stands for none is
refused before the reporter learns of it.
-/

namespace BrokerMonitor

namespace StreamStatus

variable {a b c : StreamStatus}

theorem lt_of_le_of_lt (hab : a ≤ b) (hbc : b < c) : a < c := UInt8.lt_of_le_of_lt hab hbc

theorem le_of_not_lt (h : ¬ a < b) : b ≤ a := UInt8.not_lt.mp h

theorem le_refl (a : StreamStatus) : a ≤ a := UInt8.le_refl a.code

theorem le_of_lt (h : a < b) : a ≤ b := UInt8.le_of_lt h

theorem le_antisymm (hab : a ≤ b) (hba : b ≤ a) : a = b :=
  code_injective (UInt8.le_antisymm hab hba)

/-- Statuses that rise strictly are all different, so there are at most three. -/
theorem length_le_of_rising {l : List StreamStatus} (h : l.Pairwise (· < ·)) : l.length ≤ 3 := by
  have hnodup : l.Nodup := by
    apply h.imp
    rintro a _ haa rfl
    exact UInt8.lt_irrefl a.code haa
  have hall : l ⊆ all := by
    intro s _
    cases s <;> simp [all]
  exact (List.subperm_of_subset hnodup hall).length_le

/-- The codes are the three numbers below 3. -/
theorem ofCode?_eq_none_iff (n : UInt8) : ofCode? n = none ↔ 2 < n := by
  simp only [ofCode?, all, List.find?_eq_none, List.forall_mem_cons, code]
  grind

end StreamStatus

namespace Reporter

/-! ### The highest status so far -/

/-- The last status that was passed on is the highest of those that were said. -/
def Tops (r : Reporter) (said : List StreamStatus) : Prop :=
  match r.last with
  | none => said = []
  | some m => m ∈ said ∧ ∀ s ∈ said, s ≤ m

variable {r : Reporter} {said : List StreamStatus}

theorem Tops.last_eq_none_iff (h : r.Tops said) : r.last = none ↔ said = [] := by
  unfold Tops at h
  cases hlast : r.last with
  | none =>
      rw [hlast] at h
      exact ⟨fun _ => h, fun _ => rfl⟩
  | some m =>
      rw [hlast] at h
      exact ⟨nofun, fun hnil => nomatch hnil ▸ h.1⟩

theorem Tops.last_eq_some_iff (h : r.Tops said) (m : StreamStatus) :
    r.last = some m ↔ m ∈ said ∧ ∀ s ∈ said, s ≤ m := by
  unfold Tops at h
  cases hlast : r.last with
  | none =>
      rw [hlast] at h
      exact ⟨nofun, fun hm => nomatch h ▸ hm.1⟩
  | some top =>
      rw [hlast] at h
      constructor
      · rintro ⟨⟩
        exact h
      · rintro ⟨hm, htop⟩
        exact congrArg some (StreamStatus.le_antisymm (htop top h.1) (h.2 m hm))

/-- So the comparison with the last one is a comparison with all. -/
theorem Tops.isNews_iff (h : r.Tops said) (s : StreamStatus) :
    r.isNews s = true ↔ ∀ b ∈ said, b < s := by
  unfold Tops at h
  unfold isNews
  cases hlast : r.last with
  | none =>
      rw [hlast] at h
      subst h
      simp
  | some m =>
      rw [hlast] at h
      simp only [decide_eq_true_eq]
      constructor
      · exact fun hnews b hb => StreamStatus.lt_of_le_of_lt (h.2 b hb) hnews
      · exact fun hall => hall m h.1

theorem Tops.report (h : r.Tops said) (s : StreamStatus) :
    (r.report s).1.Tops (said ++ [s]) := by
  have hnews := h.isNews_iff s
  unfold Reporter.report
  split
  · next hs =>
      refine ⟨by simp, fun b hb => ?_⟩
      rcases List.mem_append.mp hb with hb | hb
      · exact StreamStatus.le_of_lt (hnews.mp hs b hb)
      · obtain rfl := List.mem_singleton.mp hb
        exact StreamStatus.le_refl b
  · next hs =>
      -- Something was said before, and the new status is not above the highest of it.
      unfold Tops at h ⊢
      unfold isNews at hs
      cases hlast : r.last with
      | none => simp [hlast] at hs
      | some m =>
          simp only [hlast, decide_eq_true_eq] at h hs ⊢
          refine ⟨List.mem_append_left _ h.1, fun b hb => ?_⟩
          rcases List.mem_append.mp hb with hb | hb
          · exact h.2 b hb
          · obtain rfl := List.mem_singleton.mp hb
            exact StreamStatus.le_of_not_lt hs

theorem Tops.reportAll (h : r.Tops said) (more : List StreamStatus) :
    (r.reportAll more).1.Tops (said ++ more) := by
  induction more generalizing r said with
  | nil => simpa using h
  | cons s rest ih =>
      rw [reportAll_cons]
      simpa using ih (h.report s)

/-- A reporter that has passed on nothing was told nothing. -/
theorem tops_nil (h : r.last = none) : r.Tops [] := by
  unfold Tops
  rw [h]

/-- A status is passed on if it is above all that were said before. -/
theorem Tops.report_snd (h : r.Tops said) (s : StreamStatus) :
    (r.report s).2 =
      if ∀ b ∈ said, b < s then some ⟨r.resource, r.generation, s⟩ else none := by
  unfold Reporter.report
  by_cases hs : ∀ b ∈ said, b < s
  · rw [if_pos hs, if_pos ((h.isNews_iff s).mpr hs)]
  · rw [if_neg hs, if_neg fun hnews => hs ((h.isNews_iff s).mp hnews)]

/-- What is passed on rises, from where the reporter was. -/
theorem rising_reportAll (r : Reporter) (said : List StreamStatus) :
    (∀ told ∈ (r.reportAll said).2, r.isNews told.status = true) ∧
      (r.reportAll said).2.Pairwise (fun a b => a.status < b.status) := by
  induction said generalizing r with
  | nil => exact ⟨by simp, .nil⟩
  | cons s rest ih =>
      obtain ⟨hlater, hrising⟩ := ih (r.report s).1
      rw [reportAll_cons]
      cases htold : (r.report s).2 with
      | none =>
          rw [report_eq_none htold] at hlater hrising ⊢
          exact ⟨hlater, hrising⟩
      | some told =>
          obtain ⟨hnews, rfl, hreporter⟩ := report_eq_some htold
          rw [hreporter] at hlater hrising ⊢
          have habove : ∀ t ∈ (reportAll { r with last := some s } rest).2, s < t.status :=
            fun t ht => of_decide_eq_true (hlater t ht)
          refine ⟨fun t ht => ?_, List.pairwise_cons.mpr ⟨habove, hrising⟩⟩
          rcases List.mem_cons.mp ht with rfl | ht
          · exact hnews
          · have ht := habove t ht
            unfold isNews at hnews ⊢
            cases hlast : r.last with
            | none => rfl
            | some m =>
                simp only [hlast, decide_eq_true_eq] at hnews ⊢
                exact StreamStatus.lt_of_le_of_lt (StreamStatus.le_of_lt hnews) ht

/-! ### Codes -/

/-- Hands a reporter a code. One that stands for no status is refused. -/
def reportCode (r : Reporter) (code : UInt8) : Reporter × Except MonitorError (Option Report) :=
  match StreamStatus.ofCode? code with
  | none => (r, .error (.invalidStatusCode code))
  | some s => ((r.report s).1, .ok (r.report s).2)

/-- Hands a reporter codes in order, and collects what comes of each. -/
def reportCodes (r : Reporter) : List UInt8 → Reporter × List (Except MonitorError (Option Report))
  | [] => (r, [])
  | code :: rest =>
    let (r₁, answer) := r.reportCode code
    let (r₂, answers) := r₁.reportCodes rest
    (r₂, answer :: answers)

/-- What the answers to some codes have passed on. -/
def passedOn (answers : List (Except MonitorError (Option Report))) : List Report :=
  answers.flatMap fun
    | .ok told => told.toList
    | .error _ => []

/-- The statuses that some codes stand for. -/
def statuses (codes : List UInt8) : List StreamStatus := codes.filterMap StreamStatus.ofCode?

/-- A run of statuses is a run of their codes. -/
theorem statuses_map_code (said : List StreamStatus) : statuses (said.map (·.code)) = said := by
  simp [statuses, List.filterMap_map]

/-- Refused codes leave no trace. -/
theorem reportCodes_eq_reportAll (r : Reporter) (codes : List UInt8) :
    ((r.reportCodes codes).1, passedOn (r.reportCodes codes).2) = r.reportAll (statuses codes) := by
  induction codes generalizing r with
  | nil => rfl
  | cons code rest ih =>
      cases hcode : StreamStatus.ofCode? code with
      | none =>
          have hrefused : r.reportCode code = (r, .error (.invalidStatusCode code)) := by
            simp [reportCode, hcode]
          simpa [reportCodes, hrefused, passedOn, statuses, hcode] using ih r
      | some s =>
          have htaken : r.reportCode code = ((r.report s).1, .ok (r.report s).2) := by
            simp [reportCode, hcode]
          have hrest := ih (r.report s).1
          have hsaid : statuses (code :: rest) = s :: statuses rest := by simp [statuses, hcode]
          rw [hsaid, reportAll_cons, ← hrest, reportCodes, htaken]
          rfl

theorem getElem?_reportCodes (r : Reporter) (codes : List UInt8) (k : Nat) :
    (r.reportCodes codes).2[k]? =
      codes[k]?.map fun code => ((r.reportCodes (codes.take k)).1.reportCode code).2 := by
  induction codes generalizing r k with
  | nil => rfl
  | cons code rest ih =>
      cases k with
      | zero => rfl
      | succ k => exact ih (r.reportCode code).1 k

theorem length_reportCodes (r : Reporter) (codes : List UInt8) :
    (r.reportCodes codes).2.length = codes.length := by
  induction codes generalizing r with
  | nil => rfl
  | cons code rest ih => exact congrArg (· + 1) (ih (r.reportCode code).1)

theorem tags_reportCodes (r : Reporter) (codes : List UInt8) :
    (r.reportCodes codes).1.resource = r.resource ∧
      (r.reportCodes codes).1.generation = r.generation := by
  have hreporter : (r.reportCodes codes).1 = (r.reportAll (statuses codes)).1 :=
    congrArg Prod.fst (r.reportCodes_eq_reportAll codes)
  rw [hreporter]
  exact ⟨r.reportAll_resource _, r.reportAll_generation _⟩

theorem tops_reportCodes (r : Reporter) (h : r.last = none) (codes : List UInt8) :
    (r.reportCodes codes).1.Tops (statuses codes) := by
  have hreporter : (r.reportCodes codes).1 = (r.reportAll (statuses codes)).1 :=
    congrArg Prod.fst (r.reportCodes_eq_reportAll codes)
  rw [hreporter]
  simpa using (tops_nil h).reportAll (statuses codes)

/-- A reporter passes on the strict running maxima of what is said. Take any codes, handed to a new
reporter one after the other; they may be those of any run of statuses.

At each place the answer is a report, tagged with the reporter's resource and generation, if the
status is strictly above every status before it, so also if it is the first; it is nothing if the
status is not; and it is an error if the code is above 2 and so stands for no status. The reporter's
last status is the highest of all, and there is none if no status came.

What is passed on, and what becomes of the reporter, is the same as if the codes that stand for no
status had not been there. All that is passed on is tagged alike and rises strictly, so there are at
most three reports. -/
theorem emissions_are_running_maxima (resource : Resource) (generation : Generation)
    (codes : List UInt8) :
    let start : Reporter := { resource, generation }
    let after := (start.reportCodes codes).1
    let answers := (start.reportCodes codes).2
    answers.length = codes.length ∧
    (∀ (k : Nat) code s, codes[k]? = some code → StreamStatus.ofCode? code = some s →
      answers[k]? = some (Except.ok (
        if ∀ b ∈ statuses (codes.take k), b < s then some ⟨resource, generation, s⟩ else none))) ∧
    (∀ (k : Nat) code, codes[k]? = some code → StreamStatus.ofCode? code = none →
      answers[k]? = some (Except.error (MonitorError.invalidStatusCode code))) ∧
    (∀ code, StreamStatus.ofCode? code = none ↔ 2 < code) ∧
    (∀ said : List StreamStatus, statuses (said.map (·.code)) = said) ∧
    (after.last = none ↔ statuses codes = []) ∧
    (∀ m, after.last = some m ↔ m ∈ statuses codes ∧ ∀ s ∈ statuses codes, s ≤ m) ∧
    (after, passedOn answers) = start.reportAll (statuses codes) ∧
    (∀ told ∈ passedOn answers, told.resource = resource ∧ told.generation = generation) ∧
    (passedOn answers).Pairwise (·.status < ·.status) ∧
    (passedOn answers).length ≤ 3 := by
  intro start after answers
  have hall : (after, passedOn answers) = start.reportAll (statuses codes) :=
    start.reportCodes_eq_reportAll codes
  have htold : passedOn answers = (start.reportAll (statuses codes)).2 := congrArg Prod.snd hall
  have htops : after.Tops (statuses codes) := start.tops_reportCodes rfl codes
  have hrising : (passedOn answers).Pairwise (·.status < ·.status) := by
    rw [htold]
    exact (start.rising_reportAll _).2
  refine ⟨start.length_reportCodes codes, ?_, ?_, StreamStatus.ofCode?_eq_none_iff,
    statuses_map_code, htops.last_eq_none_iff, htops.last_eq_some_iff, hall, ?_, hrising, ?_⟩
  · intro k code s hcode hs
    have hbefore := start.tops_reportCodes rfl (codes.take k)
    rw [getElem?_reportCodes, hcode, Option.map_some, reportCode, hs]
    simp only [hbefore.report_snd, start.tags_reportCodes]
    rfl
  · intro k code hcode hnone
    rw [getElem?_reportCodes, hcode, Option.map_some, reportCode, hnone]
  · intro told hmem
    rw [htold] at hmem
    exact tags_of_mem_reportAll hmem
  · have hstatuses : ((passedOn answers).map (·.status)).Pairwise (· < ·) :=
      List.pairwise_map.mpr hrising
    simpa using StreamStatus.length_le_of_rising hstatuses

/-- A step back, a code that is none and repeated statuses are passed over. -/
example :
    let start : Reporter := { resource := .adapters, generation := ⟨4⟩ }
    passedOn (start.reportCodes [1, 0, 7, 1, 2, 2, 1]).2 =
      [⟨.adapters, ⟨4⟩, .connecting⟩, ⟨.adapters, ⟨4⟩, .streaming⟩] := by
  decide

end Reporter

end BrokerMonitor
