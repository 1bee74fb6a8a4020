import BrokerMonitor.Idna.Punycode
import BrokerMonitor.Proofs.Address.Texts
import Mathlib.Tactic.Ring
/-!
# Punycode is read back

The reader takes the numbers of a written label one by one and inserts the characters that the
writer has passed. `InStep` says how the two stand to each other while the writer goes over the
label: it survives each character that is passed and each point that is skipped, so that in the end
the reader has the whole label. A written label may be longer than a reader takes; that is the only
way in which reading it fails.
-/

namespace BrokerMonitor.Idna.Punycode

/-! ## Numbers -/

theorem value?_digit {d : Nat} (h : d < 36) : value? (digit d) = some d := by
  have hall : ∀ d ∈ List.range 36, value? (digit d) = some d := by decide
  exact hall d (List.mem_range.2 h)

/-- The first digit of a number that goes on, below the base. -/
theorem threshold_add_mod_lt (bias place n : Nat) :
    threshold bias place + (n - threshold bias place) % (36 - threshold bias place) < 36 := by
  have hle := threshold_le bias place
  have hmod := Nat.mod_lt (n - threshold bias place) (show 0 < 36 - threshold bias place by omega)
  omega

theorem exists_digit_of_mem_writeNumber {bias place n : Nat} {c : Char}
    (h : c ∈ writeNumber bias place n) : ∃ d < 36, c = digit d := by
  fun_induction writeNumber bias place n with
  | case1 place n t hlt =>
      have hle : t ≤ 26 := threshold_le bias place
      exact ⟨n, by omega, List.mem_singleton.1 h⟩
  | case2 place n t hge ih =>
      rcases List.mem_cons.1 h with rfl | h
      · exact ⟨_, threshold_add_mod_lt bias place n, rfl⟩
      · exact ih h

theorem readNumber?_digit {bias place weight sum d : Nat} (rest : List Char) (hd : d < 36) :
    readNumber? bias place weight sum (digit d :: rest) =
      if limit ≤ sum + d * weight then none
      else if d < threshold bias place then some (sum + d * weight, rest)
      else if limit ≤ weight * (36 - threshold bias place) then none
      else readNumber? bias (place + 36) (weight * (36 - threshold bias place)) (sum + d * weight)
        rest := by
  simp only [readNumber?, value?_digit hd, Option.bind_eq_bind, Option.bind_some]

/-- A number below this is read without an overflow. -/
def maxSum : Nat := 35 ^ 6

/-- The weight of a digit while a number is read: a power of 35 as long as the thresholds are one,
and from then on whatever the number leaves room for. -/
def IsWeight (bias place weight : Nat) : Prop := (∃ j, weight = 35 ^ j) ∨ bias + 26 ≤ place

theorem IsWeight.next {bias place weight : Nat} (h : IsWeight bias place weight) :
    IsWeight bias (place + 36) (weight * (36 - threshold bias place)) := by
  by_cases hplace : place ≤ bias + 1
  · have ht : threshold bias place = 1 := by
      rw [threshold]
      split_ifs <;> omega
    rcases h with ⟨j, rfl⟩ | h
    · exact .inl ⟨j + 1, by rw [ht, pow_succ]⟩
    · exact .inr (by omega)
  · exact .inr (by omega)

/-- The next weight does not overflow if the number goes on. -/
theorem IsWeight.lt_limit {bias place weight n : Nat} (h : IsWeight bias place weight)
    (hn : threshold bias place ≤ n) (hsum : n * weight < maxSum) :
    weight * (36 - threshold bias place) < limit := by
  have hpos := threshold_pos bias place
  have hlimit : maxSum < limit := by decide
  rcases h with ⟨j, rfl⟩ | h
  · have hj : 35 ^ j < 35 ^ 6 := by
      calc 35 ^ j ≤ n * 35 ^ j := Nat.le_mul_of_pos_left _ (by omega)
        _ < 35 ^ 6 := hsum
    have hj : j + 1 ≤ 6 := (Nat.pow_lt_pow_iff_right (by omega)).1 hj
    calc 35 ^ j * (36 - threshold bias place)
        ≤ 35 ^ j * 35 := Nat.mul_le_mul_left _ (by omega)
      _ = 35 ^ (j + 1) := (pow_succ 35 j).symm
      _ ≤ 35 ^ 6 := Nat.pow_le_pow_right (by omega) hj
      _ < limit := hlimit
  · have ht : threshold bias place = 26 := by
      rw [threshold]
      split_ifs <;> omega
    have hweight : 26 * weight ≤ n * weight := Nat.mul_le_mul_right _ (ht ▸ hn)
    rw [ht]
    omega

theorem readNumber?_writeNumber {bias place n weight sum : Nat} (rest : List Char)
    (hsum : sum + n * weight < maxSum) (hweight : IsWeight bias place weight) :
    readNumber? bias place weight sum (writeNumber bias place n ++ rest) =
      some (sum + n * weight, rest) := by
  have hlimit : maxSum < limit := by decide
  induction n using Nat.strongRecOn generalizing place weight sum with
  | ind n ih =>
      have hpos := threshold_pos bias place
      have hle := threshold_le bias place
      have hdigit := threshold_add_mod_lt bias place n
      have hstep := @readNumber?_digit bias place weight sum
      have hnext := hweight.next
      have hfits := @IsWeight.lt_limit bias place weight n hweight
      rw [writeNumber]
      generalize threshold bias place = t at hpos hle hdigit hstep hnext hfits ⊢
      split
      case isTrue hlt =>
        rw [List.singleton_append, hstep _ (by omega), if_neg (by omega), if_pos hlt]
      case isFalse hge =>
        have hn : t + (n - t) % (36 - t) + (n - t) / (36 - t) * (36 - t) = n := by
          have := Nat.mod_add_div' (n - t) (36 - t)
          omega
        have hsplit : (t + (n - t) % (36 - t)) * weight +
            (n - t) / (36 - t) * (weight * (36 - t)) = n * weight := by
          rw [Nat.mul_comm weight, ← Nat.mul_assoc, ← Nat.add_mul, hn]
        have hless : (n - t) / (36 - t) < n := by
          have := Nat.div_le_self (n - t) (36 - t)
          omega
        have hroom := hfits (by omega) (by omega)
        rw [List.cons_append, hstep _ hdigit, if_neg (by omega), if_neg (by omega),
          if_neg (by omega), ih _ hless (by omega) hnext, Nat.add_assoc, hsplit]

/-! ## Points -/

@[simp] theorem mem_insertPoint {n m : Nat} {l : List Nat} :
    m ∈ insertPoint n l ↔ m = n ∨ m ∈ l := by
  induction l with
  | nil => simp [insertPoint]
  | cons k l ih =>
      rw [insertPoint]
      split
      · simp
      · split
        · simp_all
        · simp only [List.mem_cons, ih]
          tauto

theorem pairwise_insertPoint {n : Nat} {l : List Nat} (h : l.Pairwise (· < ·)) :
    (insertPoint n l).Pairwise (· < ·) := by
  induction l with
  | nil => simp [insertPoint]
  | cons k l ih =>
      obtain ⟨hk, hl⟩ := List.pairwise_cons.1 h
      rw [insertPoint]
      split
      case isTrue hlt =>
        refine List.pairwise_cons.2 ⟨fun m hm => ?_, h⟩
        rcases List.mem_cons.1 hm with rfl | hm
        · exact hlt
        · exact hlt.trans (hk m hm)
      case isFalse hge =>
        split
        · exact h
        · refine List.pairwise_cons.2 ⟨fun m hm => ?_, ih hl⟩
          rcases mem_insertPoint.1 hm with rfl | hm
          · omega
          · exact hk m hm

theorem mem_points {label : List Char} {n : Nat} :
    n ∈ points label ↔ ∃ c ∈ label, c.toNat = n ∧ 128 ≤ n := by
  have hfold : ∀ l : List Nat, n ∈ l.foldr insertPoint [] ↔ n ∈ l := by
    intro l
    induction l with
    | nil => simp
    | cons m l ih => simp [ih]
  rw [points, hfold, List.mem_filter, List.mem_map]
  simp only [decide_eq_true_eq]
  tauto

theorem pairwise_points (label : List Char) : (points label).Pairwise (· < ·) := by
  rw [points]
  induction (label.map Char.toNat).filter (128 ≤ ·) with
  | nil => exact .nil
  | cons m l ih => exact pairwise_insertPoint ih

/-! ## Reading what has been written -/

theorem toNat_lt (c : Char) : c.toNat < 0x110000 := by
  have h : c.toNat.isValidChar := c.valid
  rw [Nat.isValidChar] at h
  omega

theorem char?_toNat (c : Char) : char? c.toNat = some c := by
  rw [char?, if_pos (show c.toNat.isValidChar from c.valid), Char.ofNat_toNat]

theorem insertAll?_of_readNumber? {bias point position n : Nat} {done text later : List Char}
    (h : readNumber? bias 36 1 position text = some (n, later)) :
    insertAll? bias point position done text =
      (char? (point + n / (done.length + 1))).bind fun new =>
        insertAll? (adapt (n - position) (done.length + 1) (position == 0))
          (point + n / (done.length + 1)) (n % (done.length + 1) + 1)
          (done.insertIdx (n % (done.length + 1)) new) later := by
  cases text with
  | nil => cases h
  | cons c rest =>
      rw [insertAll?]
      split
      · simp_all
      · rename_i heq
        cases h.symm.trans heq
        dsimp only
        split <;> simp_all

/-- A number takes the reader on to the character it was written for. -/
theorem insertAll?_writeNumber {bias last position delta place : Nat} {done text : List Char}
    {c : Char} (hlast : last ≤ c.toNat) (hplace : place ≤ done.length)
    (hsum : position + delta < maxSum)
    (h : last * (done.length + 1) + position + delta = c.toNat * (done.length + 1) + place) :
    insertAll? bias last position done (writeNumber bias 36 delta ++ text) =
      insertAll? (adapt delta (done.length + 1) (position == 0)) c.toNat (place + 1)
        (done.insertIdx place c) text := by
  have hread : readNumber? bias 36 1 position (writeNumber bias 36 delta ++ text) =
      some (position + delta, text) := by
    have := @readNumber?_writeNumber bias 36 delta 1 position text (by omega) (.inl ⟨0, rfl⟩)
    rwa [Nat.mul_one] at this
  have hn : position + delta = place + (done.length + 1) * (c.toNat - last) := by
    have hmul : last * (done.length + 1) ≤ c.toNat * (done.length + 1) :=
      Nat.mul_le_mul_right _ hlast
    rw [Nat.mul_comm (done.length + 1), Nat.sub_mul]
    omega
  have hdiv : (position + delta) / (done.length + 1) = c.toNat - last := by
    rw [hn, Nat.add_mul_div_left _ _ (by omega), Nat.div_eq_of_lt (by omega), Nat.zero_add]
  have hmod : (position + delta) % (done.length + 1) = place := by
    rw [hn, Nat.add_mul_mod_self_left, Nat.mod_eq_of_lt (by omega)]
  have hpoint : last + (c.toNat - last) = c.toNat := by omega
  rw [insertAll?_of_readNumber? hread, hdiv, hmod, hpoint, char?_toNat, Option.bind_some,
    Nat.add_sub_cancel_left]

theorem insertIdx_length_append (front back : List Char) (c : Char) :
    (front ++ back).insertIdx front.length c = front ++ c :: back := by
  induction front with
  | nil => rfl
  | cons d front ih => simpa using ih

/-- What the reader has inserted when the writer has passed `passed` on its way over the label for
`point`, and `ahead` is left. -/
def inserted (point : Nat) (passed ahead : List Char) : List Char :=
  passed.filter (·.toNat ≤ point) ++ ahead.filter (·.toNat < point)

/-- The writer `w` has passed `passed` on its way over the label for `point`. A reader of its text
is at `position` for `last`, has inserted what the writer has passed, and is as far behind as the
writer's number will say. -/
structure InStep (basics : List Char) (w : Writer) (point : Nat) (passed ahead : List Char)
    (last position : Nat) : Prop where
  reads : ∀ text, insertAll? 72 128 0 basics (w.out ++ text) =
    insertAll? w.bias last position (inserted point passed ahead) text
  count_eq : w.count = (inserted point passed ahead).length
  basics_le : basics.length ≤ w.count
  isFirst : position = 0 ↔ w.count = basics.length
  last_le : last ≤ point
  distance : last * (w.count + 1) + position + w.delta =
    point * (w.count + 1) + (passed.filter (·.toNat ≤ point)).length

namespace InStep

variable {basics passed ahead : List Char} {w : Writer} {point last position : Nat} {c : Char}

/-- The number that the writer would write is small. -/
theorem sum_lt (h : InStep basics w point passed ahead last position) (hpoint : point < 0x110000)
    (hlength : (passed ++ ahead).length ≤ maxWritten) : position + w.delta < maxSum := by
  have hcount : w.count ≤ 1000 := by
    rw [h.count_eq, inserted, List.length_append]
    rw [List.length_append, maxWritten] at hlength
    have := List.length_filter_le (fun c : Char => decide (c.toNat ≤ point)) passed
    have := List.length_filter_le (fun c : Char => decide (c.toNat < point)) ahead
    omega
  have hplace : (passed.filter (·.toNat ≤ point)).length ≤ w.count := by
    rw [h.count_eq, inserted, List.length_append]
    omega
  have hmul : point * (w.count + 1) ≤ 0x110000 * 1001 := Nat.mul_le_mul (by omega) (by omega)
  have := h.distance
  rw [maxSum]
  omega

/-- The writer goes on without writing anything. -/
theorem go_on (h : InStep basics w point passed ahead last position) {point' delta : Nat}
    {passed' ahead' : List Char}
    (hinserted : inserted point' passed' ahead' = inserted point passed ahead)
    (hpoint : point ≤ point')
    (hdelta : delta + point * (w.count + 1) + (passed.filter (·.toNat ≤ point)).length =
      w.delta + point' * (w.count + 1) + (passed'.filter (·.toNat ≤ point')).length) :
    InStep basics { w with delta := delta } point' passed' ahead' last position where
  reads := hinserted ▸ h.reads
  count_eq := hinserted ▸ h.count_eq
  basics_le := h.basics_le
  isFirst := h.isFirst
  last_le := h.last_le.trans hpoint
  distance := by
    have := h.distance
    dsimp only
    omega

/-- The writer writes a number, and the reader inserts the character it stands for. -/
theorem write (h : InStep basics w point passed (c :: ahead) last position) (hc : c.toNat = point)
    (hsum : position + w.delta < maxSum) :
    InStep basics
      { out := w.out ++ writeNumber w.bias 36 w.delta
        delta := 0
        bias := adapt w.delta (w.count + 1) (w.count == basics.length)
        count := w.count + 1 }
      point (passed ++ [c]) ahead c.toNat ((passed.filter (·.toNat ≤ point)).length + 1) := by
  have hbefore : inserted point passed (c :: ahead) =
      passed.filter (·.toNat ≤ point) ++ ahead.filter (·.toNat < point) := by
    simp [inserted, hc]
  have hplace : (passed.filter (·.toNat ≤ point)).length ≤
      (inserted point passed (c :: ahead)).length := by simp [hbefore]
  have hafter : (inserted point passed (c :: ahead)).insertIdx
      (passed.filter (·.toNat ≤ point)).length c = inserted point (passed ++ [c]) ahead := by
    rw [hbefore, insertIdx_length_append]
    simp [inserted, hc]
  have hfirst : (position == 0) = (w.count == basics.length) := by
    rw [Bool.eq_iff_iff]
    simpa using h.isFirst
  constructor
  case reads =>
    intro text
    have hlast : last ≤ c.toNat := hc ▸ h.last_le
    have hdistance := h.distance
    rw [h.count_eq, ← hc] at hdistance
    rw [List.append_assoc, h.reads, insertAll?_writeNumber hlast hplace hsum (hc ▸ hdistance),
      hafter, hfirst, h.count_eq]
  case count_eq => rw [← hafter, List.length_insertIdx_of_le_length hplace, h.count_eq]
  case basics_le => exact h.basics_le.trans (Nat.le_succ _)
  case isFirst =>
    have := h.basics_le
    simp only
    omega
  case last_le => exact hc.le
  case distance => simp [hc]

theorem pass (h : InStep basics w point passed (c :: ahead) last position)
    (hpoint : point < 0x110000) (hlength : (passed ++ c :: ahead).length ≤ maxWritten) :
    ∃ last position,
      InStep basics (w.pass basics.length point c) point (passed ++ [c]) ahead last position := by
  rcases Nat.lt_trichotomy c.toNat point with hc | hc | hc
  case inl =>
    refine ⟨last, position, ?_⟩
    rw [Writer.pass, if_pos hc]
    refine h.go_on ?_ le_rfl ?_
    · simp [inserted, hc, hc.le]
    · simp [hc.le]
      omega
  case inr.inl =>
    rw [Writer.pass, if_neg (by omega), if_pos hc]
    exact ⟨_, _, h.write hc (h.sum_lt hpoint hlength)⟩
  case inr.inr =>
    refine ⟨last, position, ?_⟩
    rw [Writer.pass, if_neg (by omega), if_neg (by omega)]
    refine h.go_on ?_ le_rfl ?_
    · simp [inserted, hc.le, Nat.not_le.2 hc]
    · simp [Nat.not_le.2 hc]

/-- The writer passes the whole label. -/
theorem pass_all (h : InStep basics w point passed ahead last position)
    (hpoint : point < 0x110000) (hlength : (passed ++ ahead).length ≤ maxWritten) :
    ∃ last position,
      InStep basics (ahead.foldl (Writer.pass basics.length point) w) point (passed ++ ahead) []
        last position := by
  induction ahead generalizing w passed last position with
  | nil => exact ⟨last, position, by simpa using h⟩
  | cons c ahead ih =>
      obtain ⟨last, position, h⟩ := h.pass hpoint hlength
      simpa using ih h (by simpa using hlength)

variable {label : List Char} {next : Nat}

/-- Having passed the label for one point, the writer starts again for the next. -/
theorem again (h : InStep basics w point label [] last position) :
    InStep basics { w with delta := w.delta + 1 } (point + 1) [] label last position := by
  refine h.go_on ?_ (Nat.le_succ _) ?_
  · simp only [inserted, Nat.lt_succ_iff, List.filter_nil, List.append_nil, List.nil_append]
  · have := h.count_eq
    simp only [inserted, List.filter_nil, List.append_nil] at this
    simp only [List.filter_nil, List.length_nil, Nat.add_mul]
    omega

/-- Points that no character of the label has are skipped. -/
theorem skip (h : InStep basics w next [] label last position) (hnext : next ≤ point)
    (hlabel : ∀ c ∈ label, c.toNat < point → c.toNat < next) :
    InStep basics { w with delta := w.delta + (point - next) * (w.count + 1) } point [] label last
      position := by
  refine h.go_on ?_ hnext ?_
  · have hfilter : label.filter (·.toNat < point) = label.filter (·.toNat < next) := by
      refine List.filter_congr fun c hc => ?_
      have := hlabel c hc
      rw [decide_eq_decide]
      omega
    simp [inserted, hfilter]
  · have hmul : next * (w.count + 1) ≤ point * (w.count + 1) := Nat.mul_le_mul_right _ hnext
    rw [Nat.sub_mul]
    simp only [List.filter_nil, List.length_nil]
    omega

/-- What the writer writes for the points that are left makes the reader's text the whole label. -/
theorem insertAll?_writeAll {points : List Nat}
    (h : InStep basics w next [] label last position) (hlength : label.length ≤ maxWritten)
    (hpoints : points.Pairwise (· < ·))
    (hmem : ∀ point, point ∈ points ↔ next ≤ point ∧ ∃ c ∈ label, c.toNat = point) :
    insertAll? 72 128 0 basics (writeAll label basics.length next w points) = some label := by
  induction points generalizing w next last position with
  | nil =>
      have hlabel : ∀ c ∈ label, c.toNat < next := by
        intro c hc
        by_contra hnot
        exact List.not_mem_nil ((hmem c.toNat).2 ⟨by omega, c, hc, rfl⟩)
      have hinserted : inserted next [] label = label := by
        simpa [inserted] using hlabel
      have hread := h.reads []
      rw [List.append_nil, hinserted, insertAll?] at hread
      exact hread
  | cons point points ih =>
      obtain ⟨hfirst, hrest⟩ := List.pairwise_cons.1 hpoints
      obtain ⟨hnext, c, hc, rfl⟩ := (hmem point).1 List.mem_cons_self
      have hskip : ∀ d ∈ label, d.toNat < c.toNat → d.toNat < next := by
        intro d hd hlt
        by_contra hnot
        rcases List.mem_cons.1 ((hmem d.toNat).2 ⟨by omega, d, hd, rfl⟩) with heq | hlater
        · omega
        · exact absurd (hfirst _ hlater) (by omega)
      obtain ⟨last, position, hpassed⟩ := (h.skip hnext hskip).pass_all (toNat_lt c) hlength
      refine ih hpassed.again hrest fun point => ?_
      constructor
      · intro hpoint
        exact ⟨hfirst point hpoint, ((hmem point).1 (List.mem_cons_of_mem _ hpoint)).2⟩
      · rintro ⟨hle, hlabel⟩
        rcases List.mem_cons.1 ((hmem point).2 ⟨by omega, hlabel⟩) with rfl | hpoint
        · omega
        · exact hpoint

end InStep

/-- A writer that has written nothing yet. -/
theorem inStep_start (label : List Char) :
    InStep (label.filter (·.toNat < 128)) ⟨[], 0, 72, (label.filter (·.toNat < 128)).length⟩ 128 []
      label 128 0 where
  reads _ := by simp [inserted]
  count_eq := by simp [inserted]
  basics_le := le_rfl
  isFirst := by simp
  last_le := le_rfl
  distance := by simp

/-! ## Labels -/

theorem mem_writeAll {label : List Char} {basics next : Nat} {w : Writer} {points : List Nat}
    {c : Char} (h : c ∈ writeAll label basics next w points) :
    c ∈ w.out ∨ ∃ d < 36, c = digit d := by
  have hpass : ∀ (point : Nat) (l : List Char) (w : Writer),
      c ∈ (l.foldl (Writer.pass basics point) w).out → c ∈ w.out ∨ ∃ d < 36, c = digit d := by
    intro point l
    induction l with
    | nil => exact fun w h => .inl h
    | cons d l ih =>
        intro w h
        rcases ih _ h with h | h
        · rw [Writer.pass] at h
          split_ifs at h
          · exact .inl h
          · exact (List.mem_append.1 h).imp_right exists_digit_of_mem_writeNumber
          · exact .inl h
        · exact .inr h
  induction points generalizing next w with
  | nil => exact .inl h
  | cons point points ih =>
      rw [writeAll] at h
      rcases ih h with h | h
      · have hout := hpass point label _ h
        exact hout
      · exact .inr h

/-- A written label consists of ASCII characters of the label, hyphens and digits. -/
theorem mem_of_encode? {label text : List Char} (h : encode? label = some text) {c : Char}
    (hc : c ∈ text) : (c ∈ label ∧ c.toNat < 128) ∨ c = '-' ∨ ∃ d < 36, c = digit d := by
  simp only [encode?] at h
  split at h <;> cases h
  simp only [List.mem_append] at hc
  rcases hc with (hc | hc) | hc
  · exact .inl (by simpa using hc)
  · split at hc
    · cases hc
    · exact .inr (.inl (List.mem_singleton.1 hc))
  · exact .inr (.inr ((mem_writeAll hc).resolve_left List.not_mem_nil))

theorem digit_ne_hyphen {d : Nat} (h : d < 36) : digit d ≠ '-' := by
  have hall : ∀ d ∈ List.range 36, digit d ≠ '-' := by decide
  exact hall d (List.mem_range.2 h)

theorem toNat_digit_lt {d : Nat} (h : d < 36) : (digit d).toNat < 128 := by
  have hall : ∀ d ∈ List.range 36, (digit d).toNat < 128 := by decide
  exact hall d (List.mem_range.2 h)

theorem isAscii_of_encode? {label text : List Char} (h : encode? label = some text) {c : Char}
    (hc : c ∈ text) : c.toNat < 128 := by
  rcases mem_of_encode? h hc with ⟨-, hc⟩ | rfl | ⟨d, hd, rfl⟩
  · exact hc
  · decide
  · exact toNat_digit_lt hd

theorem cutLast_of_not_mem {basics numbers : List Char} (h : '-' ∉ numbers) :
    cutLast (basics ++ (if basics.isEmpty then [] else ['-']) ++ numbers) = (basics, numbers) := by
  have hnumbers : ∀ c ∈ numbers.reverse, (c != '-') = true := by
    rintro c hc
    rw [bne_iff_ne]
    rintro rfl
    exact h (List.mem_reverse.1 hc)
  rw [cutLast]
  cases basics with
  | nil =>
      rw [List.isEmpty_nil, if_pos rfl, List.nil_append, List.nil_append,
        Text.span_eq_self hnumbers]
  | cons c basics =>
      have hspan := @Text.span_append (· != '-') numbers.reverse ('-' :: (c :: basics).reverse)
        hnumbers (by simp)
      have htext : ((c :: basics) ++ (if (c :: basics).isEmpty then [] else ['-']) ++
          numbers).reverse = numbers.reverse ++ '-' :: (c :: basics).reverse := by simp
      rw [htext, hspan]
      simp

/-- A written label is read back, unless it is longer than a reader takes. -/
theorem decode?_of_encode? {label text : List Char} (h : encode? label = some text) :
    decode? text = if text.length ≤ maxRead then some label else none := by
  have hascii : text.all (·.toNat < 128) = true := by
    simpa using fun c hc => isAscii_of_encode? h hc
  simp only [decode?, hascii, and_true]
  simp only [encode?] at h
  split at h <;> cases h
  rename_i hlength
  have hnumbers : ∀ basics, '-' ∉ writeAll label basics 128 ⟨[], 0, 72, basics⟩ (points label) := by
    intro basics hmem
    obtain ⟨d, hd, heq⟩ := (mem_writeAll hmem).resolve_left List.not_mem_nil
    exact digit_ne_hyphen hd heq.symm
  have hmem : ∀ point, point ∈ points label ↔ 128 ≤ point ∧ ∃ c ∈ label, c.toNat = point := by
    intro point
    rw [mem_points]
    tauto
  rw [cutLast_of_not_mem (hnumbers _),
    (inStep_start label).insertAll?_writeAll hlength (pairwise_points label) hmem]

end BrokerMonitor.Idna.Punycode
