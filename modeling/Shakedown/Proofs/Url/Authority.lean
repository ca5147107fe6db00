import Mathlib.Data.List.TakeWhile
import Mathlib.Tactic.Lemma
import Shakedown.Url.Reader

/-!
Who is asked, as the front of a text says.

The authority ends at the first slash, question mark or hash. What comes from there on says nothing
about it: the same front is read as the same authority, or fails for the same reason, whatever
follows.
-/

namespace Shakedown.Url

/-- Nothing in the text ends an authority. -/
def WithinAuthority (cs : List Char) : Prop := ∀ c ∈ cs, endsAuthority .web c = false

/-- The text ends an authority at once. -/
def EndsAuthority (cs : List Char) : Prop := ∀ c ∈ cs.head?, endsAuthority .web c = true

variable {front rest : List Char}

/-- Only slashes, a question mark and a hash end an authority. -/
lemma endsAuthority_eq_false {p : Char → Bool} {c : Char} (has : p c = true)
    (apart : p '/' = false ∧ p '\\' = false ∧ p '?' = false ∧ p '#' = false) :
    endsAuthority .web c = false := by
  rw [← Bool.not_eq_true]
  intro ends
  have marks : c = '/' ∨ c = '\\' ∨ c = '?' ∨ c = '#' := by
    simpa [endsAuthority, isSlash, or_assoc] using ends
  obtain ⟨slash, backslash, question, hash⟩ := apart
  rcases marks with rfl | rfl | rfl | rfl
  · exact Bool.noConfusion (slash.symm.trans has)
  · exact Bool.noConfusion (backslash.symm.trans has)
  · exact Bool.noConfusion (question.symm.trans has)
  · exact Bool.noConfusion (hash.symm.trans has)

lemma WithinAuthority.drop (within : WithinAuthority front) (n : Nat) :
    WithinAuthority (front.drop n) := fun c mem => within c (List.mem_of_mem_drop mem)

lemma EndsAuthority.append (front_ends : EndsAuthority front) (rest_ends : EndsAuthority rest) :
    EndsAuthority (front ++ rest) := by
  cases front with
  | nil => exact rest_ends
  | cons c front => exact front_ends

lemma takeWhile_within (within : WithinAuthority front) (ends : EndsAuthority rest) :
    (front ++ rest).takeWhile (!endsAuthority .web ·) = front := by
  have passed : ∀ c ∈ front, (!endsAuthority .web c) = true := by
    intro c mem
    rw [within c mem, Bool.not_false]
  rw [List.takeWhile_append_of_pos passed]
  cases rest with
  | nil => exact List.append_nil front
  | cons c rest => rw [List.takeWhile_cons_of_neg (by simp [ends c rfl]), List.append_nil]

/-! The name before the at-sign. -/

/-- The name in the front, if there is one, and what follows it. Only when nothing follows it within
the front does it matter what comes behind. -/
lemma readUser_append (within : WithinAuthority front) : ∃ user behind, WithinAuthority behind ∧
    ∀ rest, EndsAuthority rest → readUser .web (front ++ rest) = .ok (user, behind ++ rest) ∨
      behind = [] ∧ readUser .web (front ++ rest) = .error .emptyHost := by
  by_cases at_sign : '@' ∈ front
  · let name := ((front.reverse.dropWhile (· ≠ '@')).drop 1).reverse
    have shorter : name.length + 1 ≤ front.length := by
      have found : front.reverse.dropWhile (· ≠ '@') ≠ [] := by
        rw [Ne, List.dropWhile_eq_nil_iff]
        intro none
        exact absurd (none '@' (List.mem_reverse.mpr at_sign)) (by decide)
      have positive := List.length_pos_iff.mpr found
      have le := (List.dropWhile_sublist (· ≠ '@') (l := front.reverse)).length_le
      rw [List.length_reverse] at le
      simp only [name, List.length_reverse, List.length_drop]
      omega
    let behind := front.drop (name.length + 1)
    obtain ⟨user, read⟩ : ∃ user, ∀ rest, EndsAuthority rest → readUser .web (front ++ rest) =
        if name = [] && (behind ++ rest).head?.any (endsAuthority .web) then .error .emptyHost
        else .ok (user, behind ++ rest) := by
      exact ⟨_, fun rest ends => by
        rewrite [readUser, takeWhile_within within ends, if_neg (not_not_intro at_sign),
          ← List.drop_append_of_le_length shorter]
        rfl⟩
    refine ⟨user, behind, within.drop _, fun rest ends => ?_⟩
    rw [read rest ends]
    cases behind_eq : behind with
    | nil =>
      split
      · exact .inr ⟨rfl, rfl⟩
      · exact .inl rfl
    | cons c tail =>
      have c_within : endsAuthority .web c = false := by
        refine within c (List.mem_of_mem_drop (i := name.length + 1) ?_)
        rw [show front.drop (name.length + 1) = _ from behind_eq]
        exact List.mem_cons_self
      left
      rw [if_neg (by simp [c_within])]
  · refine ⟨("", none), front, within, fun rest ends => .inl ?_⟩
    rw [readUser, takeWhile_within within ends, if_pos at_sign]

/-! The host. -/

lemma hostLength_append (ends : EndsAuthority rest) (inBrackets : Bool) :
    hostLength .web inBrackets (front ++ rest) = hostLength .web inBrackets front := by
  induction front generalizing inBrackets with
  | nil =>
    cases rest with
    | nil => rfl
    | cons c rest => simp [hostLength, ends c rfl]
  | cons c front ih => simp only [List.cons_append, hostLength, ih]

lemma hostLength_le (inBrackets : Bool) (front : List Char) :
    hostLength .web inBrackets front ≤ front.length := by
  induction front generalizing inBrackets with
  | nil => exact Nat.le_refl 0
  | cons c front ih =>
    rw [hostLength]
    split
    · exact Nat.zero_le _
    · exact Nat.succ_le_succ (ih _)

/-- Only a colon ends a host within an authority. -/
lemma drop_hostLength (within : WithinAuthority front) (inBrackets : Bool) :
    ∀ c ∈ (front.drop (hostLength .web inBrackets front)).head?, c = ':' := by
  induction front generalizing inBrackets with
  | nil => exact fun c mem => by cases mem
  | cons d front ih =>
    obtain ⟨d_within, front_within⟩ := List.forall_mem_cons.mp within
    rw [hostLength]
    split
    · next stops =>
      rw [d_within, Bool.or_false, Bool.and_eq_true, decide_eq_true_eq] at stops
      intro c mem
      exact (Option.some.inj mem).symm.trans stops.1
    · exact ih front_within _

lemma readHost_append (front : List Char) : ∃ host : Except Problem Host,
    ∀ rest, EndsAuthority rest → readHost .web (front ++ rest) =
      host.map (·, front.drop (hostLength .web false front) ++ rest) := by
  refine ⟨if hostLength .web false front = 0 then .error .emptyHost
    else Host.read (front.take (hostLength .web false front)), fun rest ends => ?_⟩
  have le := hostLength_le false front
  simp only [readHost, hostLength_append ends, List.take_append_of_le_length le,
    List.drop_append_of_le_length le, reduceCtorEq, if_false]
  split
  · rfl
  · cases Host.read (front.take (hostLength .web false front)) <;> rfl

/-! The port. -/

/-- After the digits of a port there is the end of the authority, or the port is none. -/
lemma readPort_colon (scheme : String) (cs : List Char) : readPort scheme (':' :: cs) =
    let digits := cs.takeWhile Char.isDigit
    let after := cs.dropWhile Char.isDigit
    let port := digits.foldl (fun n c => n * 10 + (c.toNat - 48)) 0
    if 65535 < port then .error .badPort
    else if after.head?.any (!endsAuthority .web ·) then .error .badPort
    else if digits = [] || some port = defaultPort scheme then .ok (none, after)
    else .ok (some port, after) := by
  have ends_eq : (fun c : Char => !(c = '/' || c = '\\' || c = '?' || c = '#')) =
      (!endsAuthority .web ·) := by
    funext c
    simp [endsAuthority, isSlash]
  rw [← ends_eq]
  rfl

lemma takeWhile_digits (digits : ∀ c ∈ front, c.isDigit = true) (ends : EndsAuthority rest) :
    (front ++ rest).takeWhile Char.isDigit = front ∧
      (front ++ rest).dropWhile Char.isDigit = rest := by
  rw [List.takeWhile_append_of_pos digits, List.dropWhile_append_of_pos digits]
  cases rest with
  | nil => exact ⟨List.append_nil front, rfl⟩
  | cons c rest =>
    have no_digit : ¬ c.isDigit = true := by
      intro digit
      have within : endsAuthority .web c = false := endsAuthority_eq_false digit (by decide)
      exact Bool.noConfusion (within.symm.trans (ends c rfl))
    rw [List.takeWhile_cons_of_neg no_digit, List.dropWhile_cons_of_neg no_digit]
    exact ⟨List.append_nil front, rfl⟩

/-- Digits up to the end of the front are a port, and a port that goes on after them is none. -/
lemma readPort_append (within : WithinAuthority front) (scheme : String)
    (opens : ∀ c ∈ front.head?, c = ':') : ∃ port : Except Problem (Option Nat),
      ∀ rest, EndsAuthority rest → readPort scheme (front ++ rest) = port.map (·, rest) := by
  cases front with
  | nil =>
    refine ⟨.ok none, fun rest ends => ?_⟩
    rw [List.nil_append, readPort]
    · rfl
    · rintro tail rfl
      exact absurd (ends ':' rfl) (by decide)
  | cons c front =>
    obtain rfl : c = ':' := opens c rfl
    by_cases digits : ∀ c ∈ front, c.isDigit = true
    · let port := front.foldl (fun n c => n * 10 + (c.toNat - 48)) 0
      refine ⟨if 65535 < port then .error .badPort
        else if front = [] || some port = defaultPort scheme then .ok none else .ok (some port),
        fun rest ends => ?_⟩
      obtain ⟨taken, left⟩ := takeWhile_digits digits ends
      have no_more : ¬ (rest.head?.any (!endsAuthority .web ·)) = true := by
        cases rest with
        | nil => exact Bool.false_ne_true
        | cons c rest => simp [ends c rfl]
      rw [List.cons_append, readPort_colon]
      simp only [taken, left, if_neg no_more]
      split
      · rfl
      · split <;> rfl
    · -- the first character that is no digit stands within the front
      refine ⟨.error .badPort, fun rest ends => ?_⟩
      obtain ⟨d, tail, left⟩ : ∃ d tail, front.dropWhile Char.isDigit = d :: tail := by
        refine List.exists_cons_of_ne_nil ?_
        rwa [Ne, List.dropWhile_eq_nil_iff]
      have d_mem : d ∈ front := by
        refine (List.dropWhile_sublist Char.isDigit).subset ?_
        rw [left]
        exact List.mem_cons_self
      have d_within := within d (List.mem_cons_of_mem ':' d_mem)
      have more : (front ++ rest).dropWhile Char.isDigit = d :: (tail ++ rest) := by
        rw [List.dropWhile_append, left]
        rfl
      rw [List.cons_append, readPort_colon]
      simp only [more, List.head?_cons, Option.any_some, d_within, Bool.not_false, if_true,
        ite_self]
      rfl

/-- The same front is read as the same authority. -/
lemma readAuthority_append {scheme : String} (web : SchemeKind.of scheme = .web)
    (within : WithinAuthority front) : ∃ authority : Except Problem Authority,
      ∀ rest, EndsAuthority rest →
        readAuthority scheme (front ++ rest) = authority.map (·, rest) := by
  obtain ⟨user, behind, behind_within, read_user⟩ := readUser_append within
  obtain ⟨host, read_host⟩ := readHost_append behind
  obtain ⟨port, read_port⟩ := readPort_append (behind_within.drop _) scheme
    (drop_hostLength behind_within false)
  let authority : Except Problem Authority :=
    host.bind fun host => port.bind fun port =>
      if host = .name "" && (Authority.mk user.1 user.2 host port).hasUser then .error .emptyHost
      else .ok ⟨user.1, user.2, host, port⟩
  refine ⟨authority, fun rest ends => ?_⟩
  rcases read_user rest ends with named | ⟨rfl, unnamed⟩
  · simp only [readAuthority, web, named, read_host rest ends, bind, Except.bind, authority]
    cases host with
    | error problem => rfl
    | ok host =>
      simp only [Except.map, read_port rest ends]
      cases port with
      | error problem => rfl
      | ok port =>
        dsimp only
        split <;> rfl
  · -- without a host, what follows decides only which of two steps fails, and both fail alike
    have no_host : host = .error .emptyHost := by
      have alone : Except.error .emptyHost = host.map (·, []) := read_host [] nofun
      cases host with
      | error problem => exact (Except.error.inj alone) ▸ rfl
      | ok host => cases alone
    simp only [readAuthority, web, unnamed, bind, Except.bind, authority, no_host]
    rfl

end Shakedown.Url
