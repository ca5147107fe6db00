import Shakedown.Load.Client
import Shakedown.Proofs.Address.Names
import Shakedown.Proofs.Url.Reading
import Shakedown.Proofs.Url.Segments

/-!
Addresses below the address of an app.

The address of an app may end in any number of slashes; they are taken off and one is put back
before a path is read against it. What comes of that is the scheme, the authority and the
directories that the address itself was read as, so all paths below an app start from there.
-/

namespace Shakedown

namespace Url

/-- Slashes behind a path do not matter to the directories that it leads to. -/
lemma exists_directories {path : List Char} (opens : ∀ c ∈ path.head?, isSlash .web c = true)
    (n : Nat) : ∃ dirs,
      (∃ k, absoluteSegments .web (path ++ List.replicate n '/') = dirs ++ List.replicate k "") ∧
        absoluteSegments .web (path ++ ['/']) = dirs ++ [""] := by
  cases path with
  | nil =>
    refine ⟨[], ?_, by decide⟩
    cases n with
    | zero => exact ⟨1, by decide⟩
    | succ n =>
      have root_eq : Path.readSegments (isSlash .web) [] = List.replicate 1 "" := by decide
      refine ⟨1 + n, ?_⟩
      rw [List.nil_append, List.replicate_succ, ← List.singleton_append,
        absoluteSegments_cons (by decide), root_eq, List.replicate_append_replicate,
        Path.resolve_of_straight (Path.straight_replicate (1 + n))]
  | cons c path =>
    have slash := opens c rfl
    obtain ⟨dirs, ⟨k, bare⟩, slashed⟩ := Path.exists_directories (readSegments_ne_nil path)
    refine ⟨dirs, ?_, ?_⟩
    · cases n with
      | zero =>
        exact ⟨k, by rw [absoluteSegments_cons slash, List.replicate_zero, List.append_nil, bare]⟩
      | succ n => exact ⟨n + 1, by rw [absoluteSegments_cons slash, slashed]⟩
    · exact (absoluteSegments_cons slash path 1).trans (slashed 0)

/-- An address without query and fragment, and the base that it makes with one slash behind it. -/
lemma exists_base_of_told {secure : Bool} {told : List Char} {n : Nat} {u : Url}
    (read : readHierarchical (Base.schemeOf secure) (told ++ List.replicate n '/') = .ok u)
    (no_query : u.query = none) (no_fragment : u.fragment = none) : ∃ a dirs k,
      u = ⟨Base.schemeOf secure, some a, .segments (dirs ++ List.replicate k ""), none, none⟩ ∧
        Base.read secure (told ++ ['/']) = .ok ⟨secure, a, dirs ++ [""], none⟩ := by
  have kind : SchemeKind.of (Base.schemeOf secure) = .web := by cases secure <;> decide
  obtain ⟨front, path, rfl, within, ends⟩ := exists_authority_front told
  obtain ⟨authority, read_authority⟩ := readAuthority_append kind within
  have slashes_end : ∀ k, EndsAuthority (List.replicate k '/') := by
    intro k c mem
    rw [List.eq_of_mem_replicate (List.mem_of_mem_head? mem)]
    rfl
  have ends_slashes := ends.append (slashes_end n)
  have ends_slash : EndsAuthority (path ++ ['/']) := ends.append (slashes_end 1)
  rw [List.append_assoc] at read ⊢
  cases authority with
  | error problem =>
    rw [readHierarchical_of_no_authority (read_authority _ ends_slashes)] at read
    cases read
  | ok a =>
    rw [readHierarchical_of_authority kind (read_authority _ ends_slashes)] at read
    obtain rfl := Except.ok.inj read
    obtain ⟨span_eq, no_marks⟩ := spanPath_of_no_tail no_query no_fragment
    have opens : ∀ c ∈ path.head?, isSlash .web c = true := by
      intro c mem
      have no_mark := no_marks c (List.mem_append_left _ (List.mem_of_mem_head? mem))
      have ends_here := ends c mem
      rw [endsPath, Bool.or_eq_false_iff] at no_mark
      rwa [endsAuthority, no_mark.1, no_mark.2, Bool.or_false, Bool.or_false] at ends_here
    obtain ⟨dirs, ⟨k, slashes_eq⟩, slash_eq⟩ := exists_directories opens n
    have slash_span : spanPath (path ++ ['/']) = (path ++ ['/'], []) :=
      spanPath_of_whole (List.forall_mem_append.mpr
        ⟨(List.forall_mem_append.mp no_marks).1, by decide⟩)
    refine ⟨a, dirs, k, ?_, ?_⟩
    · rw [span_eq, slashes_eq]
      rfl
    · rw [Base.read_of_authority (read_authority _ ends_slash), slash_span, slash_eq]
      rfl

end Url

namespace Load

open Url Address

lemma dropWhile_append_of_ne_nil {p : Char → Bool} {cs : List Char} (present : cs.dropWhile p ≠ [])
    (rest : List Char) : (cs ++ rest).dropWhile p = cs.dropWhile p ++ rest := by
  rw [List.dropWhile_append, if_neg]
  rwa [List.isEmpty_iff]

lemma rdropWhile_append_of_ne_nil {p : Char → Bool} {cs : List Char}
    (present : cs.rdropWhile p ≠ []) (front : List Char) :
    (front ++ cs).rdropWhile p = front ++ cs.rdropWhile p := by
  rw [List.rdropWhile, List.reverse_append, dropWhile_append_of_ne_nil, List.reverse_append,
    List.reverse_reverse, List.rdropWhile]
  rwa [Ne, ← List.reverse_eq_nil_iff]

/-- What is told after a lead, with the slashes at the end taken off and one put back. -/
lemma exists_told {rest : List Char} (present : (rest.filter stays).dropWhile (isSlash .web) ≠ []) :
    ∃ bare told n, (∀ front, (front ++ rest).rdropWhile (· = '/') = front ++ bare) ∧
      (rest.filter stays).dropWhile (isSlash .web) = told ++ List.replicate n '/' ∧
      (bare.filter stays ++ ['/']).dropWhile (isSlash .web) = told ++ ['/'] := by
  obtain ⟨n, rest_eq⟩ := exists_replicate '/' rest
  let bare := rest.rdropWhile (· = '/')
  have filter_eq : rest.filter stays = bare.filter stays ++ List.replicate n '/' := by
    have slashes_stay : (List.replicate n '/').filter stays = List.replicate n '/' := by
      rw [List.filter_eq_self]
      intro c mem
      rw [List.eq_of_mem_replicate mem]
      rfl
    rw [rest_eq, List.filter_append, slashes_stay]
  have told_present : (bare.filter stays).dropWhile (isSlash .web) ≠ [] := by
    intro nothing
    rw [filter_eq, List.dropWhile_append, nothing, if_pos List.isEmpty_nil, Ne,
      List.dropWhile_eq_nil_iff] at present
    refine present fun c mem => ?_
    rw [List.eq_of_mem_replicate mem]
    rfl
  have bare_present : bare ≠ [] := by
    intro nothing
    rw [nothing] at told_present
    exact told_present rfl
  refine ⟨bare, _, n, fun front => rdropWhile_append_of_ne_nil bare_present front, ?_,
    dropWhile_append_of_ne_nil told_present ['/']⟩
  rw [filter_eq, dropWhile_append_of_ne_nil told_present]

/-- The text is the address of an app: a web address without query and fragment, told from its lead
to an end that is not dropped.

Some more texts are read as such addresses, but as the text of an app they stand for others. A text
without its two slashes has no lead, so for `http:/app.test` the host `http` is asked over HTTPS, and
a control character in front hides the lead and leaves nothing that can be read. The slash that is
put back behind a blank makes the blank a part of the path. Only white space in front is harmless.
-/
structure AppAt (p : String) (app : Url) : Prop where
  read_eq : Url.read p = .ok app
  opens : ∃ secure s rest, SpellsLead secure s ∧ p = s ++ rest
  solid : EndsSolid p.toList
  no_query : app.query = none
  no_fragment : app.fragment = none

/-- The base that paths below an app are read against. -/
lemma AppAt.exists_base {p : String} {app : Url} (at_app : AppAt p app) : ∃ secure a dirs k,
    app = ⟨Base.schemeOf secure, some a, .segments (dirs ++ List.replicate k ""), none, none⟩ ∧
    Address.base (bare p ++ "/") = .ok ⟨secure, a, dirs ++ [""], none⟩ := by
  obtain ⟨secure, s, rest, spells, rfl⟩ := at_app.opens
  have read := at_app.read_eq
  rw [read_of_lead_of_endsSolid spells at_app.solid] at read
  have present : (rest.toList.filter stays).dropWhile (isSlash .web) ≠ [] := by
    intro nothing
    rw [nothing] at read
    have no_host : ∀ secure, readHierarchical (Base.schemeOf secure) [] = .error .emptyHost := by
      decide +kernel
    rw [no_host] at read
    cases read
  obtain ⟨kept, told, n, kept_eq, rest_eq, slash_eq⟩ := exists_told present
  rw [rest_eq] at read
  obtain ⟨a, dirs, k, app_eq, base_eq⟩ :=
    exists_base_of_told read at_app.no_query at_app.no_fragment
  have bare_eq : bare (s ++ rest) = s ++ String.ofList kept := by
    rw [← String.toList_inj, toList_bare, String.toList_append, kept_eq, String.toList_append,
      String.toList_ofList]
  refine ⟨secure, a, dirs, k, app_eq, ?_⟩
  rw [bare_eq, base_of_lead_slash spells, String.toList_ofList, slash_eq, base_eq]

/-- The address of a path below an app: one slash is put between the two. -/
lemma appUrl_eq (p path : String) : appUrl p path =
    Address.resolve (bare p ++ "/") (String.ofList (path.toList.dropWhile (· = '/'))) := rfl

end Load
end Shakedown
