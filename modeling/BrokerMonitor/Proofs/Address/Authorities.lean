import BrokerMonitor.Proofs.Address.Hosts
/-!
# Authorities in normal form

An authority that has been read is written as its user, its host and its port. The user is coded, so
the only `@` is the one behind it and its first colon ends the name; the host has no colon outside
brackets; and the port is a number that is not the scheme's own.
-/

namespace BrokerMonitor.Url

/-! ## Users -/

/-- A user as it is read: coded. -/
structure User.IsNormal (u : User) : Prop where
  name : ∀ c ∈ u.name.toList, inUserSet c = false
  password : ∀ c ∈ u.password.toList, inUserSet c = false

section User

variable {u : User} {c : Char} {rest : List Char}

/-- Whatever is read as a user is coded. -/
theorem User.isNormal_parse (text : List Char) : (User.parse text).IsNormal := by
  constructor <;> intro c hc
  · exact isCodeSet_inUserSet.of_mem_encode (by simpa [User.parse] using hc)
  · exact isCodeSet_inUserSet.of_mem_encode (by simpa [User.parse] using hc)

theorem User.isNormal_empty : ({} : User).IsNormal := ⟨by simp, by simp⟩

/-- What stands in front of the `@`. -/
def User.front (u : User) : List Char :=
  if u.password.isEmpty then u.name.toList else u.name.toList ++ ':' :: u.password.toList

theorem User.toList_text (u : User) : u.text.toList = if u = {} then [] else u.front ++ ['@'] := by
  obtain ⟨name, password⟩ := u
  by_cases hname : name = "" <;> by_cases hpassword : password = "" <;>
    simp [User.text, User.front, hname, hpassword]

/-- The front of a coded user is read as the user. -/
theorem User.parse_front (h : u.IsNormal) : User.parse u.front = u := by
  have hname : ∀ c ∈ u.name.toList, (c != ':') = true := by
    intro c hc
    rw [bne_iff_ne]
    rintro rfl
    exact absurd (h.name ':' hc) (by decide)
  have hencode : encode inUserSet u.name.toList = u.name.toList := encode_of_forall_not h.name
  have hencode' : encode inUserSet u.password.toList = u.password.toList :=
    encode_of_forall_not h.password
  by_cases hempty : u.password = ""
  · have hfront : u.front = u.name.toList := by simp [User.front, hempty]
    rw [hfront, User.parse, Text.span_eq_self hname]
    obtain ⟨name, password⟩ := u
    simp_all
  · have hfront : u.front = u.name.toList ++ ':' :: u.password.toList := by
      simp [User.front, hempty]
    rw [hfront, User.parse, Text.span_append hname (by simp)]
    simp [hencode, hencode']

theorem User.isPrintable_of_mem_text (h : u.IsNormal) (hc : c ∈ u.text.toList) :
    Text.isPrintable c = true ∧ endsAuthority true c = false := by
  have hcoded : ∀ c, inUserSet c = false →
      Text.isPrintable c = true ∧ endsAuthority true c = false := by
    intro c hc
    refine ⟨isPrintable_of_inUserSet hc, ?_⟩
    simp only [endsAuthority, Bool.or_eq_false_iff, beq_eq_false_iff_ne, Bool.true_and]
    refine ⟨⟨⟨?_, ?_⟩, ?_⟩, ?_⟩ <;> rintro rfl <;> exact absurd hc (by decide)
  rw [User.toList_text] at hc
  split at hc
  · cases hc
  · rcases List.mem_append.1 hc with hc | hc
    · rw [User.front] at hc
      split at hc
      · exact hcoded c (h.name c hc)
      · rcases List.mem_append.1 hc with hc | hc
        · exact hcoded c (h.name c hc)
        · rcases List.mem_cons.1 hc with rfl | hc
          · decide
          · exact hcoded c (h.password c hc)
    · rw [List.mem_singleton.1 hc]
      decide

theorem forall_ne_at (h : '@' ∉ rest) : ∀ c ∈ rest.reverse, (c != '@') = true := by
  intro c hc
  rw [bne_iff_ne]
  rintro rfl
  exact h (List.mem_reverse.1 hc)

theorem cutUser_of_not_mem (h : '@' ∉ rest) : cutUser rest = none := by
  rw [cutUser, Text.span_eq_self (forall_ne_at h)]

theorem cutUser_append {front : List Char} (h : '@' ∉ rest) :
    cutUser (front ++ '@' :: rest) = some (front, rest) := by
  have hreverse : (front ++ '@' :: rest).reverse = rest.reverse ++ '@' :: front.reverse := by simp
  rw [cutUser, hreverse, Text.span_append (forall_ne_at h) (by simp)]
  simp only [List.reverse_reverse]

end User

/-! ## Ports -/

/-- A port as it is written behind a host. -/
def portText : Option Nat → List Char
  | some port => ':' :: Nat.toDigits 10 port
  | none => []

theorem portNumber?_toDigits {n : Nat} (h : n < 65536) :
    portNumber? (Nat.toDigits 10 n) = .ok (some n) := by
  have hvalue : (Nat.toDigits 10 n).foldl (fun n d => n * 10 + (d.toNat - '0'.toNat)) 0 = n := by
    have hdigits := @Nat.ofDigitChars_ten_toDigits n
    rw [Nat.ofDigitChars_eq_foldl] at hdigits
    simpa only [Nat.mul_comm 10] using hdigits
  rw [portNumber?, if_neg (by simp)]
  simp only [hvalue, h, if_true]

theorem parsePort_portText {port : Option Nat} (h : ∀ n ∈ port, n < 65536) :
    parsePort (portText port) = .ok port := by
  cases port with
  | none => rfl
  | some n =>
      have hdigits : ∀ c ∈ Nat.toDigits 10 n, c.isDigit = true := fun c hc =>
        Nat.isDigit_of_mem_toDigits (by decide) (by decide) hc
      rw [portText, parsePort, Text.span_eq_self hdigits]
      simp only [portNumber?_toDigits (h n rfl)]

theorem lt_of_portNumber? {digits : List Char} {port : Option Nat}
    (h : portNumber? digits = .ok port) : ∀ n ∈ port, n < 65536 := by
  rw [portNumber?] at h
  split at h
  · cases h
    simp
  · dsimp only at h
    split at h <;> cases h
    rintro n ⟨⟩
    assumption

theorem lt_of_parsePort {text : List Char} {port : Option Nat} (h : parsePort text = .ok port) :
    ∀ n ∈ port, n < 65536 := by
  revert h
  fun_cases parsePort text
  all_goals intro h
  all_goals try cases h
  all_goals try exact lt_of_portNumber? ‹_›
  simp

/-! ## Authorities -/

/-- An authority as it is read by a scheme whose own port is `ownPort`. -/
structure Authority.IsNormal (ownPort : Nat) (a : Authority) : Prop where
  user : a.user.IsNormal
  host : a.host.IsNormal
  port : ∀ n ∈ a.port, n < 65536 ∧ n ≠ ownPort

namespace Authority

variable {ownPort : Nat} {a : Authority} {c : Char}

/-- An authority as it is written. -/
def written (a : Authority) : List Char :=
  a.user.text.toList ++ (a.host.text.toList ++ portText a.port)

/-- Reads what follows the user: a host and a port. -/
def readHost (ownPort : Nat) (user : User) (rest : List Char) : Except Fault Authority :=
  if (cutHost false rest).1.isEmpty then .error .emptyHost
  else do
    let host ← Host.parse (cutHost false rest).1
    let port ← parsePort (cutHost false rest).2
    .ok ⟨user, host, if port = some ownPort then none else port⟩

theorem parse_eq (ownPort : Nat) (text : List Char) :
    parse ownPort text = match cutUser text with
      | some (user, rest) => readHost ownPort (User.parse user) rest
      | none => readHost ownPort {} text := by
  rw [parse]
  cases cutUser text <;> rfl

theorem isNormal_of_readHost {user : User} {rest : List Char} (huser : user.IsNormal)
    (h : readHost ownPort user rest = .ok a) : a.IsNormal ownPort := by
  rw [readHost] at h
  split at h
  · cases h
  · cases hhost : Host.parse (cutHost false rest).1 with
    | error fault =>
        rw [hhost] at h
        cases h
    | ok host =>
        cases hport : parsePort (cutHost false rest).2 with
        | error fault =>
            rw [hhost, hport] at h
            cases h
        | ok port =>
            rw [hhost, hport] at h
            cases h
            refine ⟨huser, Host.isNormal_of_parse hhost, fun n hn => ?_⟩
            split at hn
            · cases hn
            · rename_i hown
              refine ⟨lt_of_parsePort hport n hn, ?_⟩
              rintro rfl
              exact hown hn

/-- Whatever is read as an authority is in normal form. -/
theorem isNormal_of_parse {text : List Char} (h : parse ownPort text = .ok a) :
    a.IsNormal ownPort := by
  rw [parse_eq] at h
  split at h
  · exact isNormal_of_readHost (User.isNormal_parse _) h
  · exact isNormal_of_readHost User.isNormal_empty h

theorem isPrintable_of_mem_portText {port : Option Nat} (hc : c ∈ portText port) :
    Text.isPrintable c = true ∧ endsAuthority true c = false ∧ c ≠ '@' := by
  cases port with
  | none => cases hc
  | some n =>
      rcases List.mem_cons.1 hc with rfl | hc
      · decide
      · have hdigit := Nat.isDigit_of_mem_toDigits (by decide) (by decide) hc
        have hhost := Host.isHostChar_of_isNameChar (Host.isNameChar_of_isDigit hdigit)
        simpa [Host.isHostChar, and_assoc] using hhost

theorem isPrintable_of_mem_host (h : a.IsNormal ownPort) (hc : c ∈ a.host.text.toList) :
    Text.isPrintable c = true ∧ endsAuthority true c = false ∧ c ≠ '@' := by
  simpa [Host.isHostChar, and_assoc] using h.host.isHostChar hc

theorem isPrintable_of_mem_written (h : a.IsNormal ownPort) (hc : c ∈ a.written) :
    Text.isPrintable c = true ∧ endsAuthority true c = false := by
  rw [written, List.mem_append, List.mem_append] at hc
  rcases hc with hc | hc | hc
  · exact User.isPrintable_of_mem_text h.user hc
  · obtain ⟨hprintable, hend, -⟩ := isPrintable_of_mem_host h hc
    exact ⟨hprintable, hend⟩
  · obtain ⟨hprintable, hend, -⟩ := isPrintable_of_mem_portText hc
    exact ⟨hprintable, hend⟩

theorem written_ne_nil (h : a.IsNormal ownPort) : a.written ≠ [] := by
  simp [written, Host.text_ne_nil h.host]

/-- What is written for an authority is read as it, if its host can be read. -/
theorem parse_written (h : a.IsNormal ownPort) :
    parse ownPort a.written = if a.host.IsReadable then .ok a else .error .invalidName := by
  have hat : '@' ∉ a.host.text.toList ++ portText a.port := by
    intro hmem
    rcases List.mem_append.1 hmem with hmem | hmem
    · exact (isPrintable_of_mem_host h hmem).2.2 rfl
    · exact (isPrintable_of_mem_portText hmem).2.2 rfl
  have hparse : parse ownPort a.written =
      readHost ownPort a.user (a.host.text.toList ++ portText a.port) := by
    rw [parse_eq, written, User.toList_text]
    by_cases hempty : a.user = {}
    · rw [if_pos hempty, List.nil_append, cutUser_of_not_mem hat, hempty]
    · rw [if_neg hempty, List.append_assoc, List.singleton_append, cutUser_append hat]
      simp only [User.parse_front h.user]
  have hport : portText a.port = [] ∨ (portText a.port).head? = some ':' := by
    cases a.port <;> simp [portText]
  have hhost := Host.text_ne_nil h.host
  have hown : ¬a.port = some ownPort := fun heq => (h.port ownPort heq).2 rfl
  rw [hparse, readHost, Host.cutHost_text h.host hport, if_neg (by simpa using hhost),
    Host.parse_text h.host]
  split
  · rw [parsePort_portText fun n hn => (h.port n hn).1]
    simp only [bind, Except.bind, if_neg hown]
  · rfl

end Authority

end BrokerMonitor.Url
