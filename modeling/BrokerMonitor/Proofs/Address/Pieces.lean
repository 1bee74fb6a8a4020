import BrokerMonitor.Proofs.Address.Texts
import BrokerMonitor.Url.Ipv6
import Mathlib.Tactic.Ring
/-!
# Addresses of eight pieces are read back

The pieces of an address are written without leading zeros, and a run of zero pieces as two colons.
No piece is empty, so the two colons stand where the run was left out and nowhere else, and as many
zeros as are missing are put there again.
-/

namespace BrokerMonitor.Url.Ipv6

open Unicode.Table (cut hexDigit?)

/-! ## Pieces -/

theorem hexDigit?_digitChar {n : Nat} (h : n < 16) : hexDigit? n.digitChar = some n := by
  have hall : ∀ n < 16, hexDigit? n.digitChar = some n := by decide
  exact hall n h

/-- The value of hexadecimal digits behind a number. -/
def value? (init : Nat) (text : List Char) : Option Nat :=
  text.foldlM (fun n c => (hexDigit? c).map (n * 16 + ·)) init

theorem value?_toDigits (n : Nat) : value? 0 (Nat.toDigits 16 n) = some n := by
  induction n using Nat.base_induction 16 (by decide) with
  | single n hn =>
      rw [Nat.toDigits_of_lt_base hn]
      simp [value?, hexDigit?_digitChar hn]
  | digit n d hd hn ih =>
      rw [← Nat.toDigits_append_toDigits (by decide) hn hd, Nat.toDigits_of_lt_base hd, value?,
        List.foldlM_append]
      rw [value?] at ih
      rw [ih]
      simp [hexDigit?_digitChar hd, Nat.mul_comm]

/-- A character of a piece. -/
def isHex (c : Char) : Bool := c.isDigit || ('a' ≤ c && c ≤ 'f')

theorem isHex_digitChar {n : Nat} (h : n < 16) : isHex n.digitChar = true := by
  have hall : ∀ n < 16, isHex n.digitChar = true := by decide
  exact hall n h

theorem isHex_of_mem_pieceText {p : UInt16} {c : Char} (h : c ∈ pieceText p) : isHex c = true := by
  rw [pieceText] at h
  generalize p.toNat = n at h
  induction n using Nat.base_induction 16 (by decide) with
  | single n hn =>
      rw [Nat.toDigits_of_lt_base hn] at h
      exact List.mem_singleton.1 h ▸ isHex_digitChar hn
  | digit n d hd hn ih =>
      rw [← Nat.toDigits_append_toDigits (by decide) hn hd, Nat.toDigits_of_lt_base hd] at h
      rcases List.mem_append.1 h with h | h
      · exact ih h
      · exact List.mem_singleton.1 h ▸ isHex_digitChar hd

theorem pieceText_ne_nil (p : UInt16) : pieceText p ≠ [] := Nat.toDigits_ne_nil

theorem piece?_pieceText (p : UInt16) : piece? (pieceText p) = some p := by
  have hlength : (pieceText p).length ≤ 4 :=
    (Nat.length_toDigits_le_iff (by decide) (by decide)).2 p.toNat_lt
  have hvalue : (pieceText p).foldlM (fun n c => (hexDigit? c).map (n * 16 + ·)) 0 =
      some p.toNat := value?_toDigits p.toNat
  rw [piece?, if_neg (by simpa [pieceText_ne_nil] using hlength), hvalue]
  simp

/-! ## Sides -/

variable {p : UInt16} {pieces : List UInt16} {text : List Char}

theorem isHex_of_mem_sideText {c : Char} (h : c ∈ sideText pieces) : isHex c = true ∨ c = ':' := by
  rcases Text.mem_intercalate h with rfl | ⟨part, hpart, hc⟩
  · exact .inr rfl
  · obtain ⟨p, -, rfl⟩ := List.mem_map.1 hpart
    exact .inl (isHex_of_mem_pieceText hc)

theorem sideText_cons_cons (p q : UInt16) (pieces : List UInt16) :
    sideText (p :: q :: pieces) = pieceText p ++ ':' :: sideText (q :: pieces) := by
  simp [sideText, List.intercalate_cons_cons]

theorem sideText_ne_nil (p : UInt16) (pieces : List UInt16) : sideText (p :: pieces) ≠ [] := by
  cases pieces with
  | nil => simpa [sideText] using pieceText_ne_nil p
  | cons q pieces => simp [sideText_cons_cons]

theorem not_mem_pieceText {c : Char} (hc : isHex c = false) (p : UInt16) : c ∉ pieceText p := by
  intro h
  rw [isHex_of_mem_pieceText h] at hc
  cases hc

theorem group?_map_pieceText (tail : Bool) (pieces : List UInt16) :
    group? tail (pieces.map pieceText) = some pieces := by
  induction pieces with
  | nil => rfl
  | cons p pieces ih =>
      cases pieces with
      | nil =>
          have hpoint : '.' ∉ pieceText p := not_mem_pieceText (by decide) p
          simp [group?, hpoint, piece?_pieceText]
      | cons q pieces =>
          rw [List.map_cons] at ih
          rw [List.map_cons, List.map_cons, group?, piece?_pieceText, ih]
          · rfl
          · simp

theorem side?_sideText (tail : Bool) (pieces : List UInt16) :
    side? tail (sideText pieces) = some pieces := by
  cases pieces with
  | nil => rfl
  | cons p pieces =>
      have hcut : cut ':' (sideText (p :: pieces)) = (p :: pieces).map pieceText := by
        refine Unicode.Table.cut_intercalate (fun part hpart hcolon => ?_) (by simp)
        obtain ⟨p, -, rfl⟩ := List.mem_map.1 hpart
        exact not_mem_pieceText (by decide) p hcolon
      rw [side?, if_neg (by simpa using sideText_ne_nil p pieces), hcut, group?_map_pieceText]

/-! ## The gap -/

theorem cutGap_append {front : List Char} (h : ':' ∉ front) (text : List Char) :
    cutGap (front ++ text) = (cutGap text).map fun gap => (front ++ gap.1, gap.2) := by
  induction front with
  | nil => simp
  | cons c front ih =>
      rw [List.mem_cons, not_or] at h
      rw [List.cons_append, cutGap]
      · rw [ih h.2, Option.map_map]
        rfl
      · rintro rest rfl
        exact absurd rfl h.1

theorem cutGap_colon {text : List Char} (h : text.head? ≠ some ':') :
    cutGap (':' :: text) = (cutGap text).map fun gap => (':' :: gap.1, gap.2) := by
  rw [cutGap]
  rintro rest - rfl
  exact h rfl

/-- No two colons stand in a row before the end of a side. -/
theorem cutGap_sideText (p : UInt16) (pieces : List UInt16) (text : List Char) :
    cutGap (sideText (p :: pieces) ++ text) =
      (cutGap text).map fun gap => (sideText (p :: pieces) ++ gap.1, gap.2) := by
  have hpiece : ∀ p, ':' ∉ pieceText p := not_mem_pieceText (by decide)
  induction pieces generalizing p with
  | nil =>
      have hside : sideText [p] = pieceText p := by simp [sideText]
      rw [hside, cutGap_append (hpiece p)]
  | cons q pieces ih =>
      have hhead : (sideText (q :: pieces) ++ text).head? ≠ some ':' := by
        obtain ⟨c, rest, hc⟩ := List.exists_cons_of_ne_nil (pieceText_ne_nil q)
        have hne : c ≠ ':' := fun h => hpiece q (by simp [hc, h])
        cases pieces <;> simp [sideText, List.intercalate_cons_cons, hc, hne]
      rw [sideText_cons_cons, List.append_assoc, cutGap_append (hpiece p), List.cons_append,
        cutGap_colon hhead, ih, Option.map_map, Option.map_map]
      simp [Function.comp_def]

/-! ## Addresses -/

theorem length_zeros_le (pieces : List UInt16) : zeros pieces ≤ pieces.length :=
  (List.takeWhile_prefix _).length_le

theorem take_zeros (pieces : List UInt16) :
    pieces.take (zeros pieces) = List.replicate (zeros pieces) 0 := by
  rw [zeros, ← List.prefix_iff_eq_take.1 (List.takeWhile_prefix _), List.eq_replicate_iff]
  refine ⟨rfl, fun p hp => ?_⟩
  simpa using List.all_eq_true.1 List.all_takeWhile p hp

/-- The longest run is a run of zeros. -/
theorem take_drop_longestRun (pieces : List UInt16) :
    (longestRun pieces).1 + (longestRun pieces).2 ≤ pieces.length ∧
      (pieces.drop (longestRun pieces).1).take (longestRun pieces).2 =
        List.replicate (longestRun pieces).2 0 := by
  induction pieces with
  | nil => exact ⟨le_rfl, rfl⟩
  | cons p pieces ih =>
      have hrun : longestRun (p :: pieces) =
          if (longestRun pieces).2 ≤ zeros (p :: pieces) then (0, zeros (p :: pieces))
          else ((longestRun pieces).1 + 1, (longestRun pieces).2) := rfl
      rw [hrun]
      split
      · exact ⟨by simpa using length_zeros_le (p :: pieces), take_zeros (p :: pieces)⟩
      · refine ⟨?_, by simpa using ih.2⟩
        have := ih.1
        simp only [List.length_cons]
        omega

theorem text_eq (a : Ipv6) :
    a.text =
      if 2 ≤ (longestRun a.pieces.toList).2 then
        sideText (a.pieces.toList.take (longestRun a.pieces.toList).1) ++ [':', ':'] ++
          sideText (a.pieces.toList.drop
            ((longestRun a.pieces.toList).1 + (longestRun a.pieces.toList).2))
      else sideText a.pieces.toList := rfl

/-- The two colons stand where the run was left out. -/
theorem cutGap_gap (front back : List UInt16) :
    cutGap (sideText front ++ [':', ':'] ++ sideText back) =
      some (sideText front, sideText back) := by
  rw [List.append_assoc]
  cases front with
  | nil => rfl
  | cons p front =>
      rw [cutGap_sideText]
      simp [cutGap]

theorem cutGap_of_no_gap (pieces : List UInt16) : cutGap (sideText pieces) = none := by
  cases pieces with
  | nil => rfl
  | cons p pieces => simpa [cutGap] using cutGap_sideText p pieces []

theorem pieces?_text (a : Ipv6) : pieces? a.text = some a.pieces.toList := by
  have hlength : a.pieces.toList.length = 8 := by simp
  obtain ⟨hle, hzeros⟩ := take_drop_longestRun a.pieces.toList
  rw [text_eq]
  generalize a.pieces.toList = pieces at *
  generalize longestRun pieces = run at *
  split
  case isTrue hrun =>
    have hpieces : pieces.take run.1 ++ List.replicate run.2 0 ++ pieces.drop (run.1 + run.2) =
        pieces := by
      rw [← hzeros, List.append_assoc, ← List.drop_drop, List.take_append_drop,
        List.take_append_drop]
    have hmissing : (pieces.take run.1).length + (pieces.drop (run.1 + run.2)).length =
        8 - run.2 := by
      rw [List.length_take, List.length_drop]
      omega
    rw [pieces?, cutGap_gap]
    simp only [side?_sideText, Option.bind_eq_bind, Option.bind_some, hmissing]
    rw [if_pos (by omega), show 8 - (8 - run.2) = run.2 by omega, hpieces]
  case isFalse hrun =>
    rw [pieces?, cutGap_of_no_gap]
    exact side?_sideText true pieces

theorem isHex_of_mem_text {a : Ipv6} {c : Char} (h : c ∈ a.text) : isHex c = true ∨ c = ':' := by
  rw [text_eq] at h
  split at h
  · simp only [List.mem_append, List.mem_cons, List.not_mem_nil, or_false] at h
    rcases h with (h | h) | h
    · exact isHex_of_mem_sideText h
    · exact .inr (by tauto)
    · exact isHex_of_mem_sideText h
  · exact isHex_of_mem_sideText h

theorem ofText?_text (a : Ipv6) : ofText? a.text = some a := by
  rw [ofText?, pieces?_text]
  simp only [Option.bind_eq_bind, Option.bind_some]
  rw [dif_pos (by simp)]
  rfl

end BrokerMonitor.Url.Ipv6
