import BrokerMonitor.Proofs.Address.Alone
/-!
# Names that outgrow what is read

A name of ideographs has one label, and it is written behind a marker. Where the ideographs lie far
apart each of them takes three characters or more, so that a label short enough to be written is
written as one that is too long to be read.
-/

namespace BrokerMonitor

namespace Idna

/-! ## The length of a written label -/

namespace Punycode

theorem writeNumber_ne_nil (bias place n : Nat) : writeNumber bias place n ≠ [] := by
  rw [writeNumber]
  split <;> simp

/-- Whatever the thresholds are, two digits reach up to 910. -/
theorem three_le_length_writeNumber {n : Nat} (h : 911 ≤ n) (bias place : Nat) :
    3 ≤ (writeNumber bias place n).length := by
  have hpos := threshold_pos bias place
  have hle := threshold_le bias place
  have hle' := threshold_le bias (place + 36)
  have hnext : 26 ≤ (n - threshold bias place) / (36 - threshold bias place) := by
    rw [Nat.le_div_iff_mul_le (by omega)]
    omega
  have hlast := List.length_pos_iff.2 (writeNumber_ne_nil bias (place + 36 + 36)
    (((n - threshold bias place) / (36 - threshold bias place) - threshold bias (place + 36)) /
      (36 - threshold bias (place + 36))))
  rw [writeNumber, if_neg (by omega), writeNumber, if_neg (by omega)]
  simp only [List.length_cons]
  omega

section Growth

variable {label : List Char} {basics point next : Nat} {points : List Nat}

theorem le_pass (w : Writer) (c : Char) :
    w.out.length ≤ (w.pass basics point c).out.length ∧
      w.count ≤ (w.pass basics point c).count := by
  rw [Writer.pass]
  split_ifs <;> simp

theorem le_foldl_pass (label : List Char) (w : Writer) :
    w.out.length ≤ (label.foldl (Writer.pass basics point) w).out.length ∧
      w.count ≤ (label.foldl (Writer.pass basics point) w).count := by
  induction label generalizing w with
  | nil => exact ⟨le_rfl, le_rfl⟩
  | cons c label ih =>
      obtain ⟨hout, hcount⟩ := @le_pass basics point w c
      obtain ⟨hout', hcount'⟩ := ih (w.pass basics point c)
      exact ⟨hout.trans hout', hcount.trans hcount'⟩

/-- A point of the label is written, and takes three digits if the number is large. -/
theorem foldl_pass_writes {w : Writer} (h : ∃ c ∈ label, c.toNat = point) :
    w.count + 1 ≤ (label.foldl (Writer.pass basics point) w).count ∧
      (911 ≤ w.delta →
        w.out.length + 3 ≤ (label.foldl (Writer.pass basics point) w).out.length) := by
  induction label generalizing w with
  | nil => simp at h
  | cons c label ih =>
      rw [List.foldl_cons]
      by_cases hc : c.toNat = point
      · obtain ⟨hout, hcount⟩ := @le_foldl_pass basics point label (w.pass basics point c)
        rw [Writer.pass, if_neg (by omega), if_pos hc] at hout hcount ⊢
        refine ⟨hcount, fun hdelta => ?_⟩
        have hthree := three_le_length_writeNumber hdelta w.bias 36
        rw [List.length_append] at hout
        omega
      · have hlabel : ∃ d ∈ label, d.toNat = point := by
          obtain ⟨d, hd, hpoint⟩ := h
          rcases List.mem_cons.1 hd with rfl | hd
          · exact absurd hpoint hc
          · exact ⟨d, hd, hpoint⟩
        rw [Writer.pass]
        split_ifs
        · obtain ⟨hcount, hout⟩ := @ih { w with delta := w.delta + 1 } hlabel
          exact ⟨hcount, fun hdelta => hout (Nat.le_succ_of_le hdelta)⟩
        · exact ih hlabel

/-- Points that lie 60 apart take three digits each, but for the first few. -/
theorem length_writeAll {w : Writer} {few : Nat} (hcount : 16 ≤ w.count + few)
    (hpoints : ∀ p ∈ points, ∃ c ∈ label, c.toNat = p)
    (hgaps : points.Pairwise (· + 60 ≤ ·)) (hnext : ∀ p ∈ points, next + 59 ≤ p) :
    w.out.length + 3 * points.length ≤
      (writeAll label basics next w points).length + 3 * few := by
  induction points generalizing next w few with
  | nil => exact Nat.le_add_right _ _
  | cons point points ih =>
      obtain ⟨hpoint, hpoints⟩ := List.forall_mem_cons.1 hpoints
      obtain ⟨hgap, hgaps⟩ := List.pairwise_cons.1 hgaps
      have hfar := hnext point List.mem_cons_self
      have hnext' : ∀ p ∈ points, point + 1 + 59 ≤ p := fun p hp => hgap p hp
      rw [writeAll]
      generalize hw :
        ({ w with delta := w.delta + (point - next) * (w.count + 1) } : Writer) = start
      have hout : start.out = w.out := by rw [← hw]
      have hstart : start.count = w.count := by rw [← hw]
      have hdelta : start.delta = w.delta + (point - next) * (w.count + 1) := by rw [← hw]
      obtain ⟨hwritten, hlong⟩ := @foldl_pass_writes label basics point start hpoint
      obtain ⟨hgrown, -⟩ := @le_foldl_pass basics point label start
      generalize label.foldl (Writer.pass basics point) start = passed at *
      rw [hout] at hlong hgrown
      rw [hstart] at hwritten
      cases few with
      | zero =>
          have hlarge : 59 * 17 ≤ (point - next) * (w.count + 1) :=
            Nat.mul_le_mul (by omega) (by omega)
          have hrest := @ih (point + 1) { passed with delta := passed.delta + 1 } 0
            (by dsimp only; omega) hpoints hgaps hnext'
          have hthree := hlong (by omega)
          simp only [List.length_cons]
          dsimp only at hrest
          omega
      | succ few =>
          have hrest := @ih (point + 1) { passed with delta := passed.delta + 1 } few
            (by dsimp only; omega) hpoints hgaps hnext'
          simp only [List.length_cons]
          dsimp only at hrest
          omega

end Growth

/-- A label whose points rise has them in the order of its characters. -/
theorem points_of_rising {label : List Char} (hlabel : ∀ c ∈ label, 128 ≤ c.toNat)
    (h : (label.map Char.toNat).Pairwise (· < ·)) : points label = label.map Char.toNat := by
  have hfold : ∀ l : List Nat, l.Pairwise (· < ·) → l.foldr insertPoint [] = l := by
    intro l hl
    induction l with
    | nil => rfl
    | cons n l ih =>
        obtain ⟨hn, hl⟩ := List.pairwise_cons.1 hl
        rw [List.foldr_cons, ih hl]
        cases l with
        | nil => rfl
        | cons m l => exact if_pos (hn m List.mem_cons_self)
  have hfilter : (label.map Char.toNat).filter (128 ≤ ·) = label.map Char.toNat := by
    simpa using hlabel
  rw [points, hfilter, hfold _ h]

/-- A label without ASCII characters whose points lie 60 apart is written with three digits for each
of them, but for the first few. -/
theorem length_of_encode? {label text : List Char} (h : encode? label = some text)
    (hlabel : ∀ c ∈ label, 256 ≤ c.toNat)
    (hgaps : (label.map Char.toNat).Pairwise (· + 60 ≤ ·)) :
    3 * label.length ≤ text.length + 3 * 16 := by
  have hpoints : points label = label.map Char.toNat := by
    refine points_of_rising (fun c hc => ?_) (hgaps.imp fun hle => by omega)
    have := hlabel c hc
    omega
  have hbasic : label.filter (·.toNat < 128) = [] := by
    refine List.filter_eq_nil_iff.2 fun c hc => ?_
    have := hlabel c hc
    simp
    omega
  simp only [encode?] at h
  split at h <;> cases h
  rw [hbasic, hpoints]
  have hlength := @length_writeAll label 0 128 (label.map Char.toNat) ⟨[], 0, 72, 0⟩ 16 (by simp)
    (by simp) hgaps fun p hp => by
      obtain ⟨c, hc, rfl⟩ := List.mem_map.1 hp
      have := hlabel c hc
      omega
  simpa using hlength

end Punycode

/-! ## Names of ideographs -/

open Unicode (isIdeograph standsAlone)

section Ideographs

variable {label text : List Char} {c : Char}

theorem bounds_of_isIdeograph (h : isIdeograph c = true) : 0x3400 ≤ c.toNat := by
  simp only [isIdeograph, Bool.or_eq_true, Bool.and_eq_true, decide_eq_true_eq] at h
  omega

theorem isAscii_of_isIdeograph (h : isIdeograph c = true) : isAscii c = false := by
  have := bounds_of_isIdeograph h
  simp only [isAscii, decide_eq_false_iff_not]
  omega

theorem standsAlone_of_isIdeograph (h : isIdeograph c = true) : standsAlone c = true := by
  simp [standsAlone, h]

theorem idnaStatus_of_isIdeograph (h : isIdeograph c = true) : Unicode.idnaStatus c = .valid :=
  if_pos h

theorem not_isRightToLeft_of_isIdeograph (h : isIdeograph c = true) :
    isRightToLeft c = false := by
  have hclass : Unicode.bidiClass c = .leftToRight := if_pos h
  simp [isRightToLeft, hclass]

theorem joinersFit_of_forall_isIdeograph {before : List Char}
    (h : ∀ c ∈ label, isIdeograph c = true) : joinersFit before label = true := by
  induction label generalizing before with
  | nil => rfl
  | cons c label ih =>
      obtain ⟨hc, hlabel⟩ := List.forall_mem_cons.1 h
      have hbounds := bounds_of_isIdeograph hc
      have hjoiner : c ≠ zeroWidthJoiner := by
        rintro rfl
        exact absurd hbounds (by decide)
      have hnonJoiner : c ≠ zeroWidthNonJoiner := by
        rintro rfl
        exact absurd hbounds (by decide)
      simp [joinersFit, hjoiner, hnonJoiner, ih hlabel]

theorem not_marker_prefix_of_ideographs (h : ∀ c ∈ label, isIdeograph c = true) :
    ¬marker <+: label := by
  rintro ⟨rest, rfl⟩
  have hx := h 'x' (by simp [marker])
  exact absurd hx (by decide)

theorem isValidLabel_of_ideographs (h : ∀ c ∈ label, isIdeograph c = true) :
    isValidLabel label = true := by
  have hvalid : label.all isValidChar = true := by
    refine List.all_eq_true.2 fun c hc => ?_
    rw [isValidChar, if_neg (by simp [isAscii_of_isIdeograph (h c hc)]),
      idnaStatus_of_isIdeograph (h c hc)]
    rfl
  have hcomposed : composedForm label = label :=
    composedForm_of_standsAlone fun c hc => standsAlone_of_isIdeograph (h c hc)
  simp only [isValidLabel, hvalid, hcomposed, joinersFit_of_forall_isIdeograph h]
  cases label with
  | nil => rfl
  | cons c label => simp [Unicode.isMark, standsAlone_of_isIdeograph (h c List.mem_cons_self)]

/-- No point is written for a label without points. -/
theorem point_not_mem_of_encode? (htext : Punycode.encode? label = some text) (h : '.' ∉ label) :
    '.' ∉ marker ++ text := by
  rw [List.mem_append, not_or]
  refine ⟨by decide, fun hmem => ?_⟩
  rcases Punycode.mem_of_encode? htext hmem with ⟨hmem, -⟩ | heq | ⟨d, hd, heq⟩
  · exact h hmem
  · cases heq
  · have hplain := isPlain_digit hd
    rw [← heq] at hplain
    exact absurd hplain (by decide)

/-- Behind a marker stands one label. -/
theorem labels_of_point_not_mem (h : '.' ∉ label) : labels label = [label] := by
  rw [labels, Unicode.Table.cut_eq_splitOn, List.splitOn_eq_singleton h]

/-- A name of ideographs is one label, which is written behind a marker. -/
theorem toAscii?_of_ideographs (h : ∀ c ∈ label, isIdeograph c = true) (hne : label ≠ [])
    (htext : Punycode.encode? label = some text) : toAscii? label = some (marker ++ text) := by
  have hmapped : ∀ c ∈ label, mapChar? c = some [c] := by
    intro c hc
    rw [mapChar?, if_neg (by simp [isAscii_of_isIdeograph (h c hc)]),
      idnaStatus_of_isIdeograph (h c hc)]
  have hlabels : labels label = [label] :=
    labels_of_point_not_mem fun hpoint => absurd (h '.' hpoint) (by decide)
  have hascii : label.all isAscii = false := by
    obtain ⟨c, rest, rfl⟩ := List.exists_cons_of_ne_nil hne
    simp [isAscii_of_isIdeograph (h c List.mem_cons_self)]
  have hread : readLabel? label = some label := by
    rw [readLabel?, if_neg (by simpa using not_marker_prefix_of_ideographs h),
      if_neg (by simp [hascii]), if_pos (isValidLabel_of_ideographs h)]
  have hwrite : writeLabel? label = some (marker ++ text) := by
    rw [writeLabel?, if_neg (by simp [hascii]), htext]
    rfl
  have hdirection : label.any isRightToLeft = false := by
    refine List.any_eq_false.2 fun c hc => ?_
    simp [not_isRightToLeft_of_isIdeograph (h c hc)]
  have hrewrite : rewrite [label] = some (marker ++ text) := by
    rw [rewrite, List.mapM_cons, hread]
    simp only [List.mapM_nil, Option.bind_eq_bind, Option.bind_some, Option.pure_def, List.any_cons,
      hdirection, List.any_nil, Bool.or_false, Bool.false_and, List.mapM_cons, hwrite]
    simp [joinLabels]
  rw [toAscii?_of_standsAlone hmapped fun c hc => standsAlone_of_isIdeograph (h c hc), hlabels,
    hrewrite]

end Ideographs

end Idna

/-! ## Hosts of ideographs -/

open Idna (marker)
open Unicode (isIdeograph)

namespace Url

/-- What is written behind a marker is no number. -/
theorem Ipv4.not_endsInNumber_marker {text : List Char} (hpoint : '.' ∉ marker ++ text) :
    endsInNumber (marker ++ text) = false := by
  have hparts : parts (marker ++ text) = [marker ++ text] := by
    rw [parts, Unicode.Table.cut_eq_splitOn, List.splitOn_eq_singleton hpoint]
    rfl
  rw [endsInNumber, hparts]
  rfl

theorem Host.parse_of_ideographs {label text : List Char} (h : ∀ c ∈ label, isIdeograph c = true)
    (hne : label ≠ []) (htext : Idna.Punycode.encode? label = some text) :
    Host.parse label = .ok (.domain (String.ofList (marker ++ text))) := by
  have hbracket : '[' ∉ label := fun hmem => absurd (h '[' hmem) (by decide)
  have hpercent : '%' ∉ label := fun hmem => absurd (h '%' hmem) (by decide)
  have hpoint := Idna.point_not_mem_of_encode? htext fun hmem => absurd (h '.' hmem) (by decide)
  rw [parse_of_not_mem hbracket hpercent, Idna.toAscii?_of_ideographs h hne htext]
  simp only [ofAscii, Ipv4.not_endsInNumber_marker hpoint]
  simp [marker]

end Url

theorem Text.isBare_of_isIdeograph {c : Char} (h : isIdeograph c = true) : isBare c = true := by
  have hbounds := Idna.bounds_of_isIdeograph h
  have hne : ∀ d : Char, d.toNat < 0x3400 → c ≠ d := by
    rintro d hd rfl
    omega
  have hblank : isBlank c = false := by
    simp only [isBlank, Bool.or_eq_false_iff, Bool.and_eq_false_iff, decide_eq_false_iff_not,
      beq_eq_false_iff_ne]
    omega
  have hedge : Url.isEdge c = false := by
    simp only [Url.isEdge, decide_eq_false_iff_not]
    omega
  simp [isBare, hblank, hedge, Url.isBreak, Url.endsAuthority, hne]

end BrokerMonitor
