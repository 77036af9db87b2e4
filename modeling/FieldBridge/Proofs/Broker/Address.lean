/-
  The two ways to write an address.

  Host names of letters, digits, points and hyphens hold none of the characters that have a meaning in an
  address (`plain_of_isHostChar`), so both readers cut a text at the same place.

  1. **Plain** — the text is divided at its only `:` (`toOption_parsePlain_append`).

  2. **Locators** — nothing is trimmed away, no user is named, and the host ends where the port begins
     (`parseLocator_append`).

  3. **Agreement** — so all forms give the host as written and the same port, and all are refused when the
     port does not fit into 16 bits (`forms_agree`).
-/

import FieldBridge.Broker.Address
import FieldBridge.Proofs.Number.Decimal
import FieldBridge.Proofs.Text.Cut

namespace FieldBridge.Address

open Decimal (AllDigits value limit16)

/-! ## Host names -/

/-- Letters, digits, points and hyphens. -/
def isHostChar (c : Char) : Bool := isLetter c || ('0' ≤ c && c ≤ '9') || c = '.' || c = '-'

/-- A host name; it need not be one that a domain can have. -/
structure IsHost (host : List Char) : Prop where
  ne_nil : host ≠ []
  isHostChar : ∀ c ∈ host, isHostChar c = true

/-- A number of any length, zeros in front allowed. -/
structure IsPort (port : List Char) : Prop where
  ne_nil : port ≠ []
  allDigits : AllDigits port

/-- A character without a meaning of its own. -/
def IsPlain (c : Char) : Prop := 0x20 < c.toNat ∧ c.toNat < 0x7F ∧ c ∉ forbidden

instance (c : Char) : Decidable (IsPlain c) := inferInstanceAs (Decidable (_ ∧ _ ∧ _))

theorem toNat_lt_of_isHostChar {c : Char} (h : isHostChar c = true) : c.toNat < 128 := by
  simp only [isHostChar, isLetter, Bool.or_eq_true, Bool.and_eq_true, decide_eq_true_eq, Char.le_def,
    UInt32.le_iff_toNat_le] at h
  rcases h with (((⟨-, h⟩ | ⟨-, h⟩) | ⟨-, h⟩) | rfl) | rfl
  · exact Nat.lt_of_le_of_lt h (by decide)
  · exact Nat.lt_of_le_of_lt h (by decide)
  · exact Nat.lt_of_le_of_lt h (by decide)
  · decide
  · decide

theorem plain_of_isHostChar {c : Char} (h : isHostChar c = true) : IsPlain c :=
  Text.of_toNat_lt (P := fun c => isHostChar c = true → IsPlain c) (by decide)
    (toNat_lt_of_isHostChar h) h

theorem isHostChar_of_digit {c : Char} (h : (Decimal.digit? c).isSome) : isHostChar c = true := by
  have hlt : c.toNat < 58 := by
    simp only [Decimal.digit?] at h
    split at h
    · rename_i hdigit
      exact hdigit.2
    · exact absurd h (by simp)
  exact Text.of_toNat_lt (P := fun c => (Decimal.digit? c).isSome → isHostChar c = true) (by decide) hlt h

theorem IsPlain.ne {c : Char} (h : IsPlain c) {x : Char} (hx : x ∈ forbidden) : c ≠ x := by
  rintro rfl
  exact h.2.2 hx

theorem IsHost.plain {host : List Char} (h : IsHost host) {c : Char} (hc : c ∈ host) : IsPlain c :=
  plain_of_isHostChar (h.isHostChar c hc)

theorem IsPort.plain {port : List Char} (h : IsPort port) {c : Char} (hc : c ∈ port) : IsPlain c :=
  plain_of_isHostChar (isHostChar_of_digit (h.allDigits c hc))

theorem IsHost.notMem {host : List Char} (h : IsHost host) {x : Char} (hx : x ∈ forbidden) :
    x ∉ host := fun hmem => (h.plain hmem).ne hx rfl

theorem IsPort.notMem {port : List Char} (h : IsPort port) {x : Char} (hx : x ∈ forbidden) :
    x ∉ port := fun hmem => (h.plain hmem).ne hx rfl

/-! ## Plain addresses -/

variable {host port : List Char}

theorem pieces_host (hhost : IsHost host) : Text.pieces ':' host = [host] :=
  Text.pieces_of_notMem (hhost.notMem (by decide))

theorem pieces_host_port (hhost : IsHost host) (hport : IsPort port) :
    Text.pieces ':' (host ++ ':' :: port) = [host, port] := by
  rw [Text.pieces_append, pieces_host hhost, Text.pieces_of_notMem (hport.notMem (by decide))]
  rfl

/-! ## Locators -/

/-- What may follow the host. -/
def Tail (rest : List Char) : Prop := rest = [] ∨ ∃ port, IsPort port ∧ rest = ':' :: port

theorem Tail.plain_or_colon {rest : List Char} (h : Tail rest) {c : Char} (hc : c ∈ rest) :
    IsPlain c ∨ c = ':' := by
  obtain rfl | ⟨port, hport, rfl⟩ := h
  · exact absurd hc List.not_mem_nil
  · rcases List.mem_cons.1 hc with rfl | hc
    · exact Or.inr rfl
    · exact Or.inl (hport.plain hc)

/-- A host name and what follows end no authority and name no user. -/
theorem mem_authority {rest : List Char} (hhost : IsHost host) (hrest : Tail rest) {c : Char}
    (hc : c ∈ host ++ rest) : c ∉ forbidden.erase ':' ∧ 0x20 < c.toNat := by
  have hcases : IsPlain c ∨ c = ':' := by
    rcases List.mem_append.1 hc with hc | hc
    · exact Or.inl (hhost.plain hc)
    · exact hrest.plain_or_colon hc
  rcases hcases with hplain | rfl
  · exact ⟨fun hmem => hplain.2.2 (List.mem_of_mem_erase hmem), hplain.1⟩
  · decide

theorem dropUser_authority {rest : List Char} (hhost : IsHost host) (hrest : Tail rest) :
    dropUser .generic (host ++ rest) = .ok (false, host ++ rest) := by
  have hends : (host ++ rest).takeWhile (fun c => !endsAuthority .generic c) = host ++ rest := by
    refine List.takeWhile_eq_self_iff.2 fun c hc => ?_
    have hmem := (mem_authority hhost hrest hc).1
    simp [forbidden] at hmem
    simp [endsAuthority, hmem]
  -- what stands behind the last @ is the whole, as there is none
  have huser : (host ++ rest).reverse.takeWhile (· ≠ '@') = (host ++ rest).reverse := by
    refine List.takeWhile_eq_self_iff.2 fun c hc => ?_
    have hmem := (mem_authority hhost hrest (List.mem_reverse.1 hc)).1
    simp [forbidden] at hmem
    simp [hmem]
  simp only [dropUser, hends, huser, List.reverse_reverse, if_true]

/-- The host ends where the port begins. -/
theorem takeHost_append {rest : List Char} (hhost : ∀ c ∈ host, isHostChar c = true)
    (hrest : Tail rest) : takeHost .generic false (host ++ rest) = host := by
  induction host with
  | nil =>
    obtain rfl | ⟨port, -, rfl⟩ := hrest
    · rfl
    · simp [takeHost]
  | cons c host ih =>
    -- the character is no bracket, so the rest is read outside of brackets, too
    have hplain := (plain_of_isHostChar (hhost c List.mem_cons_self)).2.2
    have htail := ih fun x hx => hhost x (List.mem_cons_of_mem c hx)
    simp [forbidden] at hplain
    simp [takeHost, endsAuthority, hplain, htail]

theorem escaped_host (hhost : IsHost host) : escaped host = host := by
  have hkeep : ∀ c ∈ host, ¬ (c.toNat < 0x20 ∨ 0x7F ≤ c.toNat) := by
    intro c hc
    obtain ⟨hlow, hhigh, -⟩ := hhost.plain hc
    omega
  have hself : escaped host = host.flatMap fun c => [c] :=
    List.flatMap_congr fun c hc => if_neg (hkeep c hc)
  rw [hself, List.flatMap_singleton']

theorem genericHost_host (hhost : IsHost host) : genericHost host = .ok (some host) := by
  have hforbidden : host.any forbidden.contains = false := by
    rw [List.any_eq_false]
    intro c hc hcontains
    exact (hhost.plain hc).2.2 (List.contains_iff_mem.1 hcontains)
  have hplain : genericHost host
      = if host.any forbidden.contains then .error .invalidHostCharacter else .ok (some (escaped host)) := by
    refine genericHost.eq_3 host hhost.ne_nil ?_
    rintro tail rfl
    exact hhost.notMem (by decide) List.mem_cons_self
  rw [hplain, hforbidden, escaped_host hhost]
  rfl

/-- The port that digits write. -/
def written (port : List Char) : Except Fault (Option UInt16) :=
  if limit16 < value port then .error .invalidPortNumber else .ok (some (value port).toUInt16)

theorem locatorPort_port (hport : IsPort port) : locatorPort port = written port := by
  have hdigits : port.takeWhile (fun c => (Decimal.digit? c).isSome) = port :=
    List.takeWhile_eq_self_iff.2 hport.allDigits
  simp only [locatorPort, hdigits, List.drop_length, List.head?_nil]
  rcases Nat.lt_or_ge limit16 (value port) with hlimit | hlimit
  · rw [Decimal.parse_of_lt hport.allDigits hport.ne_nil hlimit, written, if_pos hlimit]
  · rw [Decimal.parse_of_le hport.allDigits hport.ne_nil hlimit, written, if_neg (Nat.not_lt.2 hlimit)]
    rfl

/-- The host is kept, and the port is what stands behind it. -/
theorem parseAuthority_append {rest : List Char} (hhost : IsHost host) (hrest : Tail rest) :
    parseAuthority (host ++ rest) = (portBehind rest).map fun port => (some host, port) := by
  simp only [parseAuthority, dropUser_authority hhost hrest, takeHost_append hhost.isHostChar hrest,
    List.drop_left, genericHost_host hhost, bind, Except.bind]
  cases portBehind rest <;> rfl

/-- Nothing is trimmed away where no character is a blank or a control. -/
theorem cleaned_eq_self {s : List Char} (h : ∀ c ∈ s, 0x20 < c.toNat) : cleaned s = s := by
  have houter : ∀ t : List Char, (∀ c ∈ t, 0x20 < c.toNat) →
      t.dropWhile (fun c => c.toNat ≤ 0x20) = t := by
    intro t ht
    cases t with
    | nil => rfl
    | cons c t => exact List.dropWhile_cons_of_neg (by simpa using ht c List.mem_cons_self)
  have hkeep : ∀ c ∈ s, !(c = '\t' || c = '\n' || c = '\r') := by
    intro c hc
    have hlow := h c hc
    have hne : ∀ x : Char, x.toNat ≤ 0x20 → c ≠ x := by
      rintro x hx rfl
      omega
    simp [hne '\t' (by decide), hne '\n' (by decide), hne '\r' (by decide)]
  simp only [cleaned, houter s h]
  rw [houter s.reverse fun c hc => h c (List.mem_reverse.1 hc), List.reverse_reverse,
    List.filter_eq_self.2 hkeep]

/-- The schemes of a broker. -/
def schemes : List (List Char) := ["tcp".toList, "mqtt".toList]

theorem cutScheme?_append {scheme : List Char} (h : scheme ∈ schemes) (rest : List Char) :
    cutScheme? (scheme ++ ':' :: rest) = some (scheme, rest) := by
  have hsep : ∀ t ∈ schemes, ':' ∉ t := by decide
  have hchars : ∀ t ∈ schemes, (t.head?.any isLetter && t.all isSchemeChar) = true := by decide
  have hlower : ∀ t ∈ schemes, t.map Text.lower = t := by decide
  simp only [cutScheme?, Text.cut?_append (hsep scheme h), hchars scheme h, if_true, hlower scheme h]

/-- **Locators**: behind a scheme of a broker the host is kept, and the port is what stands behind it. -/
theorem parseLocator_append {scheme rest : List Char} (hscheme : scheme ∈ schemes) (hhost : IsHost host)
    (hrest : Tail rest) :
    parseLocator (scheme ++ ':' :: '/' :: '/' :: (host ++ rest))
      = (portBehind rest).map fun port => ⟨String.ofList host, port.getD defaultPort⟩ := by
  have hclean : cleaned (scheme ++ ':' :: '/' :: '/' :: (host ++ rest))
      = scheme ++ ':' :: '/' :: '/' :: (host ++ rest) := by
    have hfront : ∀ t ∈ schemes, (t ++ [':', '/', '/']).all (fun c => 0x20 < c.toNat) := by decide
    refine cleaned_eq_self fun c hc => ?_
    rw [show scheme ++ ':' :: '/' :: '/' :: (host ++ rest)
      = scheme ++ [':', '/', '/'] ++ (host ++ rest) by simp] at hc
    rcases List.mem_append.1 hc with hc | hc
    · simpa using List.all_eq_true.1 (hfront scheme hscheme) c hc
    · exact (mem_authority hhost hrest hc).2
  have hkind : ∀ t ∈ schemes, Kind.ofScheme t = .generic := by decide
  have hknown : ∀ t ∈ schemes, ¬ (t ≠ "tcp".toList ∧ t ≠ "mqtt".toList) := by decide
  simp only [parseLocator, hclean, cutScheme?_append hscheme, hkind scheme hscheme,
    parseAuthority_append hhost hrest, if_neg (hknown scheme hscheme)]
  cases portBehind rest <;> rfl

/-! ## Agreement -/

theorem isLocator_append (front s : List Char) :
    isLocator (front ++ ':' :: '/' :: '/' :: s) = true := by
  induction front with
  | nil => rfl
  | cons c front ih => simp only [List.cons_append, isLocator, ih, Bool.or_true]

/-- A text without `/` is no locator. -/
theorem isLocator_of_notMem {s : List Char} (h : '/' ∉ s) : isLocator s = false := by
  induction s with
  | nil => rfl
  | cons c s ih =>
    have hafter : Text.after? "://".toList (c :: s) = none := by
      cases hread : Text.after? "://".toList (c :: s) with
      | none => rfl
      | some rest =>
        rw [← Text.append_of_after? hread] at h
        exact absurd (List.mem_append_left rest (by decide)) h
    rw [isLocator, hafter, ih fun hmem => h (List.mem_cons_of_mem c hmem)]
    rfl

theorem eq_ok_of_toOption {ε α : Type} {x : Except ε α} {a : α} (h : x.toOption = some a) :
    x = .ok a := by
  cases x with
  | error e => exact absurd h (by simp [Except.toOption])
  | ok b => exact congrArg Except.ok (Option.some.inj h)

theorem eq_error_of_toOption {ε α : Type} {x : Except ε α} (h : x.toOption = none) :
    ∃ e, x = .error e := by
  cases x with
  | error e => exact ⟨e, rfl⟩
  | ok b => exact absurd h (by simp [Except.toOption])

/-- An error carries the text that was read. -/
theorem parse_error {input : String} {e : ParseError} (h : parse input = .error e) :
    e.input = input := by
  simp only [parse] at h
  split at h
  · exact absurd h (by simp)
  · exact (congrArg ParseError.input (Except.error.inj h)).symm

theorem toOption_parse_plain {s : List Char} (h : '/' ∉ s) :
    (parse (String.ofList s)).toOption = (parsePlain s).toOption := by
  simp only [parse, String.toList_ofList, isLocator_of_notMem h, Bool.false_eq_true, if_false]
  cases parsePlain s <;> rfl

theorem toOption_parse_locator (scheme s : List Char) :
    (parse (String.ofList (scheme ++ ':' :: '/' :: '/' :: s))).toOption
      = (parseLocator (scheme ++ ':' :: '/' :: '/' :: s)).toOption := by
  simp only [parse, String.toList_ofList, isLocator_append, if_true]
  cases parseLocator (scheme ++ ':' :: '/' :: '/' :: s) <;> rfl

/-- **Plain**: the host is kept, and the port is what stands behind it. -/
theorem toOption_parsePlain_append {rest : List Char} (hhost : IsHost host) (hrest : Tail rest) :
    (parsePlain (host ++ rest)).toOption
      = (portBehind rest).toOption.map fun port => ⟨String.ofList host, port.getD defaultPort⟩ := by
  obtain rfl | ⟨port, hport, rfl⟩ := hrest
  · simp [parsePlain, pieces_host hhost, hhost.ne_nil, portBehind, Except.toOption]
  · rw [portBehind, locatorPort_port hport, parsePlain, pieces_host_port hhost hport]
    rcases Nat.lt_or_ge limit16 (value port) with hlimit | hlimit
    · have hread := Decimal.parse_of_lt hport.allDigits hport.ne_nil hlimit
      simp [hhost.ne_nil, hread, written, hlimit, Except.toOption]
    · have hread := Decimal.parse_of_le hport.allDigits hport.ne_nil hlimit
      simp [hhost.ne_nil, hread, written, Nat.not_lt.2 hlimit, Except.toOption]

/-- What may stand in front of the host. -/
def fronts : List (List Char) := [] :: schemes.map (· ++ "://".toList)

/-- **Agreement**: whatever stands in front of the host, the host is kept, and the port is what stands
behind it. -/
theorem toOption_parse_append {front rest : List Char} (hfront : front ∈ fronts) (hhost : IsHost host)
    (hrest : Tail rest) :
    (parse (String.ofList (front ++ (host ++ rest)))).toOption
      = (portBehind rest).toOption.map fun port => ⟨String.ofList host, port.getD defaultPort⟩ := by
  rcases List.mem_cons.1 hfront with rfl | hfront
  · have hslash : '/' ∉ host ++ rest := fun hmem => (mem_authority hhost hrest hmem).1 (by decide)
    rw [List.nil_append, toOption_parse_plain hslash, toOption_parsePlain_append hhost hrest]
  · obtain ⟨scheme, hscheme, rfl⟩ := List.mem_map.1 hfront
    rw [show scheme ++ "://".toList ++ (host ++ rest) = scheme ++ ':' :: '/' :: '/' :: (host ++ rest) by
      simp, toOption_parse_locator, parseLocator_append hscheme hhost hrest]
    cases portBehind rest <;> rfl

/-- **Agreement of the forms**: a host name and a port, as they are and behind either scheme, are read as
this host and the number that the port writes, however many zeros stand in front of it; if the number does
not fit into 16 bits, all three are refused.  A host name alone has the port 1883. -/
theorem forms_agree {host port front : List Char} (hhost : IsHost host) (hport : IsPort port)
    (hfront : front ∈ [[], "tcp://".toList, "mqtt://".toList]) :
    (value port ≤ 65535 → ∃ n : UInt16, n.toNat = value port
      ∧ parse (String.ofList (front ++ (host ++ ':' :: port))) = .ok ⟨String.ofList host, n⟩)
    ∧ (65535 < value port → ∃ fault, parse (String.ofList (front ++ (host ++ ':' :: port)))
      = .error ⟨String.ofList (front ++ (host ++ ':' :: port)), fault⟩)
    ∧ parse (String.ofList (front ++ host)) = .ok ⟨String.ofList host, 1883⟩ := by
  have hread := toOption_parse_append hfront hhost (Or.inr ⟨port, hport, rfl⟩)
  rw [portBehind, locatorPort_port hport, written] at hread
  refine ⟨fun hle => ?_, fun hlt => ?_, ?_⟩
  · rw [if_neg (show ¬ limit16 < value port from Nat.not_lt.2 hle)] at hread
    exact ⟨(value port).toUInt16, UInt16.toNat_ofNat_of_lt' (Nat.lt_succ_of_le hle),
      eq_ok_of_toOption hread⟩
  · rw [if_pos (show limit16 < value port from hlt)] at hread
    obtain ⟨e, hparse⟩ := eq_error_of_toOption hread
    exact ⟨e.fault, by rw [hparse, ← parse_error hparse]⟩
  · have hread := toOption_parse_append hfront hhost (Or.inl rfl)
    rw [List.append_nil] at hread
    exact eq_ok_of_toOption hread

/-- A port with zeros in front and one that is too large, behind one host. -/
theorem forms_agree_brokerExample :
    (∃ n : UInt16, n.toNat = 1884
      ∧ parse (String.ofList ("mqtt://".toList ++ ("broker-7.Plant".toList ++ ':' :: "0001884".toList)))
        = .ok ⟨String.ofList "broker-7.Plant".toList, n⟩)
    ∧ ∃ fault, parse (String.ofList ("tcp://".toList ++ ("127".toList ++ ':' :: "65536".toList)))
      = .error ⟨String.ofList ("tcp://".toList ++ ("127".toList ++ ':' :: "65536".toList)), fault⟩ := by
  have hplant : IsHost "broker-7.Plant".toList := ⟨by decide, List.all_eq_true.1 (by decide)⟩
  have hzeros : IsPort "0001884".toList := ⟨by decide, by decide⟩
  have hmqtt : "mqtt://".toList ∈ [[], "tcp://".toList, "mqtt://".toList] := by decide
  have hnumber : IsHost "127".toList := ⟨by decide, List.all_eq_true.1 (by decide)⟩
  have hlarge : IsPort "65536".toList := ⟨by decide, by decide⟩
  have htcp : "tcp://".toList ∈ [[], "tcp://".toList, "mqtt://".toList] := by decide
  exact ⟨(forms_agree hplant hzeros hmqtt).1 (by decide), (forms_agree hnumber hlarge htcp).2.1 (by decide)⟩

end FieldBridge.Address
