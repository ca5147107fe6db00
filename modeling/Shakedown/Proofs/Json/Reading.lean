import Mathlib.Tactic.Lemma
import Shakedown.Json.Parser
import Shakedown.Proofs.Agreement

/-!
What is read of a JSON document.

Whatever a document is read as, the names of each of its objects ascend, each standing once. It holds
of the containers that the reader is part way through, and one token after the other keeps it.
-/

namespace Shakedown.Json

/-- Members that make a well-formed object. -/
structure Orderly (members : List (String × Json)) : Prop where
  ascending : Named.Ascending members
  values : ∀ member ∈ members, member.2.WellFormed

lemma wellFormedMembers_iff {members : List (String × Json)} :
    WellFormedMembers members ↔ ∀ member ∈ members, member.2.WellFormed := by
  induction members with
  | nil => simp [WellFormedMembers]
  | cons member rest ih =>
    obtain ⟨name, value⟩ := member
    simp [WellFormedMembers, ih]

lemma wellFormed_object_iff {members : List (String × Json)} :
    (object members).WellFormed ↔ Orderly members := by
  rw [WellFormed, wellFormedMembers_iff]
  constructor
  · rintro ⟨ascending, values⟩
    exact ⟨ascending, values⟩
  · rintro ⟨ascending, values⟩
    exact ⟨ascending, values⟩

lemma orderly_nil : Orderly [] := ⟨Named.ascending_nil, List.forall_mem_nil _⟩

lemma Orderly.insert {members : List (String × Json)} (orderly : Orderly members) (name : String)
    {value : Json} (wellFormed : value.WellFormed) : Orderly (Named.insert name value members) := by
  refine ⟨Named.ascending_insert name value orderly.ascending, ?_⟩
  intro member mem
  rcases Named.mem_insert mem with rfl | old
  · exact wellFormed
  · exact orderly.values member old

lemma WellFormed.get? {j value : Json} {name : String} (wellFormed : j.WellFormed)
    (found : j.get? name = some value) : value.WellFormed := by
  cases j with
  | object members =>
    obtain ⟨front, back, rfl, _⟩ := List.lookup_eq_some_iff.mp found
    exact (wellFormed_object_iff.mp wellFormed).values (name, value) (by simp)
  | _ => cases found

/-! Tokens. -/

/-- The value of the lexeme is well-formed, if it has one. -/
def Lexeme.WellFormed (l : Lexeme) : Prop := ∀ value, l = .scalar (.ok value) → value.WellFormed

lemma eq_of_readWord {value found : Json} {word cs : List Char} {width left span : Nat}
    (read : readWord value word width left cs = .ok (found, span)) : found = value := by
  induction word generalizing width left cs with
  | nil =>
    cases read
    rfl
  | cons w word ih =>
    cases cs with
    | nil => cases read
    | cons c rest =>
      rw [readWord] at read
      split at read
      · exact ih read
      · cases read

/-- What is neither a text nor a container holds no object. -/
lemma wellFormed_of_readScalar {left : Nat} {c : Char} {rest : List Char} {value : Json} {width : Nat}
    (read : readScalar left c rest = .ok (value, width)) : value.WellFormed := by
  unfold readScalar at read
  split at read
  · rw [eq_of_readWord read]
    trivial
  · rw [eq_of_readWord read]
    trivial
  · rw [eq_of_readWord read]
    trivial
  · split at read
    · split at read
      · cases read
        trivial
      · cases read
    · cases read

lemma wellFormed_readLexeme (left : Nat) (c : Char) (rest : List Char) :
    (readLexeme left c rest).1.WellFormed := by
  unfold readLexeme
  split
  case h_7 =>
    split <;> nofun
  case h_8 =>
    split
    · next read =>
      intro value same
      cases same
      exact wellFormed_of_readScalar read
    · nofun
  all_goals nofun

lemma wellFormed_tokensFrom {skip left : Nat} {cs : List Char} :
    ∀ token ∈ tokensFrom skip left cs, token.lexeme.WellFormed := by
  induction cs generalizing skip left with
  | nil => cases skip <;> exact List.forall_mem_nil _
  | cons c rest ih =>
    cases skip with
    | succ skip => exact ih
    | zero =>
      rw [tokensFrom]
      split
      · exact ih
      · dsimp only
        split
        · exact List.forall_mem_cons.mpr ⟨wellFormed_readLexeme left c rest, ih⟩
        · exact List.forall_mem_singleton.mpr (wellFormed_readLexeme left c rest)

/-! The reader. -/

/-- What has been read of a container is well-formed. -/
def Frame.WellFormed : Frame → Prop
  | .items done => ∀ item ∈ done, item.WellFormed
  | .members done _ => Orderly done

def Awaiting.WellFormed : Awaiting → Prop
  | .firstName done => Orderly done
  | .name done => Orderly done
  | .colon done _ => Orderly done
  | .nothing result => result.WellFormed
  | _ => True

namespace Reader

/-- All that has been read is well-formed. -/
structure WellFormed (r : Reader) : Prop where
  awaiting : r.awaiting.WellFormed
  frames : ∀ frame ∈ r.frames, frame.WellFormed

variable {r next : Reader} {t : Token} {frames : List Frame}

lemma wellFormed_complete {value : Json} (read : value.WellFormed)
    (open_frames : ∀ frame ∈ frames, frame.WellFormed) : (complete value frames).WellFormed := by
  cases frames with
  | nil => exact ⟨read, List.forall_mem_nil _⟩
  | cons frame rest =>
    obtain ⟨innermost, outer⟩ := List.forall_mem_cons.mp open_frames
    cases frame with
    | items done =>
      refine ⟨trivial, List.forall_mem_cons.mpr ⟨?_, outer⟩⟩
      exact List.forall_mem_cons.mpr ⟨read, innermost⟩
    | members done name =>
      refine ⟨trivial, List.forall_mem_cons.mpr ⟨?_, outer⟩⟩
      exact Orderly.insert innermost name read

lemma eq_of_enter {after : Nat} {opened : Reader} (entered : r.enter after opened = .ok next) :
    next = opened := by
  unfold enter at entered
  split at entered
  · cases entered
    rfl
  · cases entered

lemma WellFormed.takeValue (wellFormed : r.WellFormed) (token : t.lexeme.WellFormed)
    (taken : r.takeValue t = .ok next) : next.WellFormed := by
  unfold Reader.takeValue at taken
  split at taken
  · rw [eq_of_enter taken]
    exact ⟨trivial, List.forall_mem_cons.mpr ⟨List.forall_mem_nil _, wellFormed.frames⟩⟩
  · rw [eq_of_enter taken]
    exact ⟨orderly_nil, wellFormed.frames⟩
  · next read text_eq =>
    cases read with
    | error failure => cases taken
    | ok s =>
      cases taken
      exact wellFormed_complete trivial wellFormed.frames
  · next read scalar_eq =>
    cases read with
    | error failure => cases taken
    | ok value =>
      cases taken
      exact wellFormed_complete (token value scalar_eq) wellFormed.frames
  · cases taken

lemma WellFormed.takeName (wellFormed : r.WellFormed) {done : List (String × Json)}
    (orderly : Orderly done) (taken : r.takeName done t = .ok next) : next.WellFormed := by
  unfold Reader.takeName at taken
  split at taken
  · next read text_eq =>
    cases read with
    | error failure => cases taken
    | ok s =>
      cases taken
      exact ⟨orderly, wellFormed.frames⟩
  · cases taken

lemma wellFormed_takeSeparator (open_frames : ∀ frame ∈ frames, frame.WellFormed)
    (taken : takeSeparator t frames = .ok next) : next.WellFormed := by
  cases frames with
  | nil => cases taken
  | cons frame rest =>
    obtain ⟨innermost, outer⟩ := List.forall_mem_cons.mp open_frames
    cases frame with
    | items done =>
      rw [takeSeparator] at taken
      split at taken
      · cases taken
        exact ⟨trivial, open_frames⟩
      · cases taken
        refine wellFormed_complete (wellFormedItems_iff.mpr ?_) outer
        intro item mem
        exact innermost item (List.mem_reverse.mp mem)
      · cases taken
    | members done name =>
      rw [takeSeparator] at taken
      split at taken
      · cases taken
        exact ⟨innermost, outer⟩
      · cases taken
        exact wellFormed_complete (wellFormed_object_iff.mpr innermost) outer
      · cases taken

/-- One token keeps what has been read well-formed. -/
lemma WellFormed.step (wellFormed : r.WellFormed) (token : t.lexeme.WellFormed)
    (taken : r.step t = .ok next) : next.WellFormed := by
  obtain ⟨awaiting, frames⟩ := r
  have inside := wellFormed.awaiting
  cases awaiting with
  | value => exact wellFormed.takeValue token taken
  | firstItem =>
    simp only [Reader.step] at taken
    split at taken
    · cases taken
      refine wellFormed_complete trivial ?_
      intro frame mem
      exact wellFormed.frames frame (List.mem_of_mem_drop mem)
    · exact wellFormed.takeValue token taken
  | item =>
    simp only [Reader.step] at taken
    split at taken
    · cases taken
    · exact wellFormed.takeValue token taken
  | firstName done =>
    simp only [Reader.step] at taken
    split at taken
    · cases taken
      exact wellFormed_complete (wellFormed_object_iff.mpr inside) wellFormed.frames
    · exact wellFormed.takeName inside taken
  | name done =>
    simp only [Reader.step] at taken
    split at taken
    · cases taken
    · exact wellFormed.takeName inside taken
  | colon done name =>
    simp only [Reader.step] at taken
    split at taken
    · cases taken
      exact ⟨trivial, List.forall_mem_cons.mpr ⟨inside, wellFormed.frames⟩⟩
    · cases taken
  | separator => exact wellFormed_takeSeparator wellFormed.frames taken
  | nothing result => cases taken

lemma WellFormed.finish {value : Json} (wellFormed : r.WellFormed)
    (read : r.finish = .ok value) : value.WellFormed := by
  obtain ⟨awaiting, frames⟩ := r
  have inside := wellFormed.awaiting
  cases awaiting with
  | nothing result =>
    cases read
    exact inside
  | separator =>
    simp only [Reader.finish] at read
    split at read <;> cases read
  | _ => cases read

/-- So do any number of tokens. -/
lemma WellFormed.run {tokens : List Token} {value : Json} (wellFormed : r.WellFormed)
    (each : ∀ token ∈ tokens, token.lexeme.WellFormed) (read : r.run tokens = .ok value) :
    value.WellFormed := by
  induction tokens generalizing r with
  | nil => exact wellFormed.finish read
  | cons t rest ih =>
    obtain ⟨first, others⟩ := List.forall_mem_cons.mp each
    simp only [Reader.run] at read
    split at read
    · next taken => exact ih (wellFormed.step first taken) others read
    · cases read

end Reader

/-- The names of every object in a document ascend, each standing once. -/
lemma wellFormed_of_parse {text : String} {value : Json} (read : parse text = .ok value) :
    value.WellFormed := by
  unfold parse at read
  dsimp only at read
  cases result : Reader.run ⟨.value, []⟩ (tokens text.toList) with
  | error failure =>
    rw [result] at read
    cases read
  | ok found =>
    rw [result] at read
    cases read
    have start : (⟨.value, []⟩ : Reader).WellFormed := ⟨trivial, List.forall_mem_nil _⟩
    exact start.run wellFormed_tokensFrom result

end Shakedown.Json
