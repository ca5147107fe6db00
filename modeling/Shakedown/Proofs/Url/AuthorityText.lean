import Shakedown.Proofs.Address.Names
import Shakedown.Proofs.Text.Punycode
import Shakedown.Proofs.Url.Authority

/-!
The text of an authority.

Whatever way an authority was written, its text is something, and holds nothing that would end it or
be dropped from an address. So an address that starts with this text is read as one of the same
authority.
-/

namespace Shakedown

namespace Text

variable {α β : Type}

lemma mem_of_mem_intercalate {between : List α} {pieces : List (List α)} {a : α}
    (mem : a ∈ between.intercalate pieces) : a ∈ between ∨ ∃ piece ∈ pieces, a ∈ piece := by
  induction pieces with
  | nil => cases mem
  | cons piece rest ih =>
    cases rest with
    | nil => exact .inr ⟨piece, List.mem_cons_self, by simpa using mem⟩
    | cons next rest =>
      rw [List.intercalate_cons_cons, List.mem_append, List.mem_append] at mem
      rcases mem with (here | gap) | later
      · exact .inr ⟨piece, List.mem_cons_self, here⟩
      · exact .inl gap
      · rcases ih later with gap | ⟨q, in_rest, in_q⟩
        · exact .inl gap
        · exact .inr ⟨q, List.mem_cons_of_mem piece in_rest, in_q⟩

lemma mem_of_mem_joinWith {between : String} {pieces : List String} {c : Char}
    (mem : c ∈ (joinWith between pieces).toList) :
    c ∈ between.toList ∨ ∃ piece ∈ pieces, c ∈ piece.toList := by
  induction pieces with
  | nil => cases mem
  | cons piece rest ih =>
    cases rest with
    | nil => exact .inr ⟨piece, List.mem_cons_self, mem⟩
    | cons next rest =>
      rw [joinWith, String.toList_append, String.toList_append, List.mem_append,
        List.mem_append] at mem
      · rcases mem with (here | gap) | later
        · exact .inr ⟨piece, List.mem_cons_self, here⟩
        · exact .inl gap
        · rcases ih later with gap | ⟨q, in_rest, in_q⟩
          · exact .inl gap
          · exact .inr ⟨q, List.mem_cons_of_mem piece in_rest, in_q⟩
      · nofun

lemma exists_of_mem_mapM {f : α → Option β} {xs : List α} {ys : List β}
    (mapped : xs.mapM f = some ys) {y : β} (mem : y ∈ ys) : ∃ x ∈ xs, f x = some y := by
  induction xs generalizing ys with
  | nil =>
    obtain rfl := Option.some.inj mapped
    cases mem
  | cons x xs ih =>
    simp only [List.mapM_cons, Option.bind_eq_bind, Option.bind_eq_some_iff, Option.pure_def,
      Option.some.injEq] at mapped
    obtain ⟨first, first_eq, rest, rest_eq, rfl⟩ := mapped
    rcases List.mem_cons.mp mem with rfl | mem
    · exact ⟨x, List.mem_cons_self, first_eq⟩
    · obtain ⟨x', in_rest, eq⟩ := ih rest_eq mem
      exact ⟨x', List.mem_cons_of_mem x in_rest, eq⟩

end Text

namespace Url

/-- A character that neither ends an authority nor is dropped from an address. -/
def standsInAuthority (c : Char) : Bool := !endsAuthority .web c && !isControlOrBlank c

lemma standsInAuthority_iff {c : Char} : standsInAuthority c = true ↔
    endsAuthority .web c = false ∧ isControlOrBlank c = false := by
  rw [standsInAuthority, Bool.and_eq_true, Bool.not_eq_true', Bool.not_eq_true']

/-- What stands in the text of an authority: it is not empty, and does not end before its end. -/
def IsAuthorityText (cs : List Char) : Prop := cs ≠ [] ∧ ∀ c ∈ cs, standsInAuthority c = true

lemma standsInAuthority_of_isUnreserved {c : Char} (unreserved : isUnreserved c = true) :
    standsInAuthority c = true :=
  standsInAuthority_iff.mpr
    ⟨endsAuthority_eq_false unreserved (by decide), (plain_of_isUnreserved unreserved).2.2⟩

/-! Digits. -/

lemma standsInAuthority_of_mem_toString {n : Nat} {c : Char} (mem : c ∈ (toString n).toList) :
    standsInAuthority c = true := by
  have digit : c ∈ Nat.toDigits 10 n := by simpa using mem
  exact standsInAuthority_of_isUnreserved
    (isUnreserved_of_mem_toDigits (by decide) (by decide) digit)

/-! Names of hosts. -/

namespace Domain

/-- Of ASCII, the text holds only characters that a host name may hold. -/
def Allowed (cs : List Char) : Prop := ∀ c ∈ cs, isAscii c = true → isForbidden c = false

lemma readLabel_allowed {label shown : List Char} (allowed : Allowed label)
    (read : readLabel? label = some shown) : Allowed shown := by
  rw [readLabel?] at read
  split at read
  · split at read
    · next decoded found =>
      split at read
      · obtain rfl := Option.some.inj read
        intro c mem ascii
        rcases Text.Punycode.mem_of_decode found mem with in_label | outside
        · exact allowed c (List.mem_of_mem_drop in_label) ascii
        · exact absurd ascii (by rw [show isAscii c = false from outside]; decide)
      · cases read
    · cases read
  · obtain rfl := Option.some.inj read
    exact allowed

lemma not_isForbidden_of_isDigit {c : Char} (digit : Text.Punycode.IsDigit c) :
    isForbidden c = false := by
  obtain ⟨d, small, rfl⟩ := digit
  have all : ∀ e ∈ List.range 36, isForbidden (Text.Punycode.digit e) = false := by decide
  exact all d (List.mem_range.mpr small)

lemma writeLabel_allowed {shown : List Char} (allowed : Allowed shown) {c : Char}
    (mem : c ∈ writeLabel shown) : isForbidden c = false := by
  rw [writeLabel] at mem
  split at mem
  · next ascii => exact allowed c mem (List.all_eq_true.mp ascii c mem)
  · rcases List.mem_append.mp mem with mark | coded
    · have marks : ∀ d ∈ codedMark, isForbidden d = false := by decide
      exact marks c mark
    · rcases Text.Punycode.mem_encode coded with ⟨in_shown, ascii⟩ | rfl | digit
      · exact allowed c in_shown ascii
      · decide
      · exact not_isForbidden_of_isDigit digit

/-- The form in which a name is sent holds no character that a name may not hold. -/
lemma not_isForbidden_of_mem_toAscii {bytes : List UInt8} {domain : List Char}
    (read : toAscii? bytes = some domain) {c : Char} (mem : c ∈ domain) :
    isForbidden c = false := by
  simp only [toAscii?, Option.bind_eq_bind, Option.bind_eq_some_iff] at read
  obtain ⟨typed, _, folded, _, labels, labels_eq, sent⟩ := read
  split at sent
  · next sound =>
    obtain rfl := Option.some.inj sent
    simp only [Bool.and_eq_true, Bool.not_eq_true', List.any_eq_false] at sound
    rcases Text.mem_of_mem_intercalate mem with dot | ⟨written, in_labels, in_written⟩
    · obtain rfl := List.mem_singleton.mp dot
      decide
    · obtain ⟨shown, shown_mem, rfl⟩ := List.mem_map.mp in_labels
      obtain ⟨label, label_mem, label_read⟩ := Text.exists_of_mem_mapM labels_eq shown_mem
      have label_allowed : Allowed label := by
        intro d in_label _
        simpa using sound.1.1 d (Text.mem_of_mem_splitBy label_mem in_label)
      exact writeLabel_allowed (readLabel_allowed label_allowed label_read) in_written
  · cases sent

end Domain

lemma standsInAuthority_of_not_isForbidden {c : Char} (allowed : Domain.isForbidden c = false) :
    standsInAuthority c = true := by
  have within : endsAuthority .web c = false :=
    endsAuthority_eq_false (p := (!Domain.isForbidden ·)) (congrArg not allowed) (by decide)
  rw [Domain.isForbidden, Bool.or_eq_false_iff, Bool.or_eq_false_iff] at allowed
  exact standsInAuthority_iff.mpr ⟨within, allowed.1.1⟩

/-! Hosts. -/

lemma Ipv4.isAuthorityText (a : BitVec 32) : IsAuthorityText (Ipv4.text a).toList := by
  have dot : ∀ c ∈ ".".toList, standsInAuthority c = true := by decide
  constructor
  · simp [Ipv4.text]
  · intro c mem
    simp only [Ipv4.text, String.toList_append, List.mem_append, or_assoc] at mem
    rcases mem with digit | mark | digit | mark | digit | mark | digit
    · exact standsInAuthority_of_mem_toString digit
    · exact dot c mark
    · exact standsInAuthority_of_mem_toString digit
    · exact dot c mark
    · exact standsInAuthority_of_mem_toString digit
    · exact dot c mark
    · exact standsInAuthority_of_mem_toString digit

lemma Ipv6.stands_of_mem_joinPieces {pieces : List Nat} {c : Char}
    (mem : c ∈ (Ipv6.joinPieces pieces).toList) : standsInAuthority c = true := by
  rcases Text.mem_of_mem_joinWith mem with colon | ⟨piece, in_pieces, in_piece⟩
  · obtain rfl := List.mem_singleton.mp colon
    decide
  · obtain ⟨n, _, rfl⟩ := List.mem_map.mp in_pieces
    rw [String.toList_ofList] at in_piece
    exact standsInAuthority_of_isUnreserved
      (isUnreserved_of_mem_toDigits (by decide) (by decide) in_piece)

lemma Ipv6.stands_of_mem_text {a : BitVec 128} {c : Char} (mem : c ∈ (Ipv6.text a).toList) :
    standsInAuthority c = true := by
  rw [Ipv6.text] at mem
  split at mem
  · exact stands_of_mem_joinPieces mem
  · rw [String.toList_append, String.toList_append, List.mem_append, List.mem_append] at mem
    rcases mem with (front | colon) | back
    · exact stands_of_mem_joinPieces front
    · have colons : ∀ d ∈ "::".toList, standsInAuthority d = true := by decide
      exact colons c colon
    · exact stands_of_mem_joinPieces back

lemma Ipv6.isAuthorityText (a : BitVec 128) :
    IsAuthorityText (("[" ++ Ipv6.text a ++ "]").toList) := by
  constructor
  · simp
  · intro c mem
    rw [String.toList_append, String.toList_append, List.mem_append, List.mem_append] at mem
    rcases mem with (bracket | inside) | bracket
    · obtain rfl := List.mem_singleton.mp bracket
      decide
    · exact stands_of_mem_text inside
    · obtain rfl := List.mem_singleton.mp bracket
      decide

/-- A host is read as a name only from the form in which a name is sent. -/
lemma Host.exists_domain_of_read {cs : List Char} {s : String}
    (read : Host.read cs = .ok (.name s)) : ∃ bytes domain,
      Domain.toAscii? bytes = some domain ∧ domain ≠ [] ∧ s = String.ofList domain := by
  unfold Host.read at read
  split at read
  · unfold Host.readBracketed at read
    split at read
    · split at read <;> cases read
    · cases read
  · split at read
    · cases read
    · cases read
    · next domain filled found =>
      split at read
      · split at read <;> cases read
      · cases read
        exact ⟨_, domain, found, filled, rfl⟩

lemma Host.isAuthorityText {cs : List Char} {host : Host} (read : Host.read cs = .ok host) :
    IsAuthorityText host.text.toList := by
  cases host with
  | ipv4 a => exact Ipv4.isAuthorityText a
  | ipv6 a => exact Ipv6.isAuthorityText a
  | name s =>
    obtain ⟨bytes, domain, sent, filled, rfl⟩ := Host.exists_domain_of_read read
    rw [Host.text, String.toList_ofList]
    exact ⟨filled, fun c mem => standsInAuthority_of_not_isForbidden
      (Domain.not_isForbidden_of_mem_toAscii sent mem)⟩

lemma readHost_isAuthorityText {cs rest : List Char} {host : Host}
    (read : readHost .web cs = .ok (host, rest)) : IsAuthorityText host.text.toList := by
  simp only [readHost, reduceCtorEq, if_false, bind, Except.bind] at read
  split at read
  · cases read
  · split at read
    · cases read
    · next found =>
      cases read
      exact Host.isAuthorityText found

/-! Names to ask under. -/

lemma stands_of_mem_userField {cs : List Char} {c : Char} (mem : c ∈ (userField cs).toList) :
    standsInAuthority c = true := by
  rw [userField, String.toList_ofList] at mem
  rcases Text.Percent.mem_encode mem with rfl | ⟨n, small, rfl⟩ | ⟨_, kept⟩
  · decide
  · have digit : ∀ m ∈ List.range 16, standsInAuthority (Text.Percent.hexDigit m) = true := by
      decide
    exact digit n (List.mem_range.mpr small)
  · have graphic : c.toNat < 128 := by
      simp only [keepsInUser, Path.keeps, Text.Percent.isGraphic, Bool.and_eq_true,
        decide_eq_true_eq] at kept
      omega
    exact forall_of_ascii (by decide +kernel) graphic kept

/-- The fields of a name hold only what may stand in an authority. -/
def StandingUser (user : String × Option String) : Prop :=
  (∀ c ∈ user.1.toList, standsInAuthority c = true) ∧
    ∀ password ∈ user.2, ∀ c ∈ password.toList, standsInAuthority c = true

lemma standingUser_of_readUser {cs rest : List Char} {user : String × Option String}
    (read : readUser .web cs = .ok (user, rest)) : StandingUser user := by
  unfold readUser at read
  dsimp only at read
  split at read
  · cases read
    exact ⟨List.forall_mem_nil _, nofun⟩
  · split at read
    · cases read
    · cases read
      refine ⟨fun c mem => stands_of_mem_userField mem, fun password given c mem => ?_⟩
      dsimp only at given
      split at given
      · obtain rfl := Option.some.inj given
        exact stands_of_mem_userField mem
      · cases given

/-! Authorities. -/

namespace Authority

/-- Every part of the authority holds only what may stand in one. -/
structure Standing (a : Authority) : Prop where
  user : StandingUser (a.username, a.password)
  host : IsAuthorityText a.host.text.toList

variable {a : Authority}

lemma stands_of_mem_userText (user : StandingUser (a.username, a.password)) {c : Char}
    (mem : c ∈ a.userText.toList) : standsInAuthority c = true := by
  rw [userText] at mem
  split at mem
  · rw [String.toList_append, String.toList_append, List.mem_append, List.mem_append] at mem
    rcases mem with (name | password) | mark
    · exact user.1 c name
    · split at password
      · next p given =>
        rw [String.toList_append, List.mem_append] at password
        rcases password with colon | field
        · obtain rfl := List.mem_singleton.mp colon
          decide
        · exact user.2 p given c field
      · cases password
    · obtain rfl := List.mem_singleton.mp mark
      decide
  · cases mem

lemma stands_of_mem_portText {port : Option Nat} {c : Char}
    (mem : c ∈ (match port with | some p => ":" ++ toString p | none => "").toList) :
    standsInAuthority c = true := by
  split at mem
  · rw [String.toList_append, List.mem_append] at mem
    rcases mem with colon | digit
    · obtain rfl := List.mem_singleton.mp colon
      decide
    · exact standsInAuthority_of_mem_toString digit
  · cases mem

lemma Standing.isAuthorityText (standing : a.Standing) : IsAuthorityText a.text.toList := by
  rw [text, String.toList_append, String.toList_append]
  constructor
  · exact List.append_ne_nil_of_left_ne_nil
      (List.append_ne_nil_of_right_ne_nil _ standing.host.1) _
  · intro c mem
    rw [List.mem_append, List.mem_append] at mem
    rcases mem with (user | host) | port
    · exact stands_of_mem_userText standing.user user
    · exact standing.host.2 c host
    · exact stands_of_mem_portText port

/-- It stands without a name, too. -/
lemma Standing.nameless (standing : a.Standing) :
    Standing { a with username := "", password := none } :=
  ⟨⟨List.forall_mem_nil _, nofun⟩, standing.host⟩

end Authority

/-- An authority that was read stands as a text. -/
lemma standing_of_readAuthority {scheme : String} (web : SchemeKind.of scheme = .web)
    {cs rest : List Char} {a : Authority} (read : readAuthority scheme cs = .ok (a, rest)) :
    a.Standing := by
  simp only [readAuthority, web, bind, Except.bind] at read
  split at read
  · cases read
  · next user_read =>
    split at read
    · cases read
    · next host_read =>
      split at read
      · cases read
      · split at read
        · cases read
        · cases read
          exact ⟨standingUser_of_readUser user_read, readHost_isAuthorityText host_read⟩

end Url
end Shakedown
