import Mathlib.Data.Finset.Card
import Shakedown.ReplyCache

/-!
What a caller remembers of the service behind it.

A caller is asked for replies that it may keep and for replies straight from the service, in any
order. The service may answer by everything it has been asked before, so a later fetch of the same
pair need not bring the reply of an earlier one. The invariant ties the cache to the whole past:
every pair is kept at most once, with the reply of its first success.
-/

namespace Shakedown.Caller

open ReplyCache

/-- What a reply is kept under: the text of an address and the bearer token. -/
abbrev Pair := String × Option String

section Fetch
variable (service : Service) {c : Caller} {f : Fetch}

lemma fetch_of_kept {reply : Reply} (kept : c.cache.find? f = some reply) :
    c.fetch service f = (.ok reply, c) := by
  simp only [fetch, kept]

variable {service}

lemma fetch_of_reply {reply : Reply} (new : c.cache.find? f = none)
    (brought : service c.calls f = .ok reply) :
    c.fetch service f = (.ok reply, ⟨c.cache.add f reply, c.calls ++ [f]⟩) := by
  simp only [fetch, fetchDirect, new, brought]

lemma fetch_of_fault {fault : Fault} (new : c.cache.find? f = none)
    (failed : service c.calls f = .error fault) :
    c.fetch service f = (.error fault, ⟨c.cache, c.calls ++ [f]⟩) := by
  simp only [fetch, fetchDirect, new, failed]

variable (service) in
/-- A pair that is not kept is asked of the service, and its answer is handed on. -/
lemma fetch_of_new (new : c.cache.find? f = none) :
    (c.fetch service f).1 = service c.calls f ∧
      (c.fetch service f).2.calls = c.calls ++ [f] := by
  cases brought : service c.calls f with
  | ok reply => rw [fetch_of_reply new brought]; exact ⟨rfl, rfl⟩
  | error fault => rw [fetch_of_fault new brought]; exact ⟨rfl, rfl⟩

/-- Whatever brought a reply, it is kept from then on. -/
lemma find?_of_fetch_ok {reply : Reply} (brought : (c.fetch service f).1 = .ok reply) :
    (c.fetch service f).2.cache.find? f = some reply := by
  cases kept : c.cache.find? f with
  | some old =>
    rw [fetch_of_kept service kept] at brought ⊢
    cases brought
    exact kept
  | none =>
    have asked := (fetch_of_new service kept).1.symm.trans brought
    rw [fetch_of_reply kept asked]
    simp [find?, add]

/-- A fetch that fails was asked of the service and leaves the cache alone. -/
lemma fetch_error {fault : Fault} (failed : (c.fetch service f).1 = .error fault) :
    service c.calls f = .error fault ∧ (c.fetch service f).2.cache = c.cache := by
  cases kept : c.cache.find? f with
  | some old => rw [fetch_of_kept service kept] at failed; cases failed
  | none =>
    have asked := (fetch_of_new service kept).1.symm.trans failed
    exact ⟨asked, by rw [fetch_of_fault kept asked]⟩

/-- What is kept after a fetch was kept before it, or the service has just brought it. -/
lemma lookup_fetch_cases {pair : Pair} {reply : Reply}
    (found : (c.fetch service f).2.cache.entries.lookup pair = some reply) :
    c.cache.entries.lookup pair = some reply ∨
      pair = keyOf f ∧ service c.calls f = .ok reply ∧
        (c.fetch service f).2.calls = c.calls ++ [f] := by
  cases kept : c.cache.find? f with
  | some old =>
    rw [fetch_of_kept service kept] at found
    exact .inl found
  | none =>
    cases brought : service c.calls f with
    | error fault =>
      rw [fetch_of_fault kept brought] at found
      exact .inl found
    | ok fresh =>
      rw [fetch_of_reply kept brought] at found ⊢
      by_cases same : pair = keyOf f
      · subst pair
        have now : fresh = reply := by simpa [ReplyCache.add] using found
        exact .inr ⟨rfl, congrArg _ now, rfl⟩
      · have other : (pair == keyOf f) = false := beq_eq_false_iff_ne.mpr same
        exact .inl (by simpa [ReplyCache.add, List.lookup_cons, other] using found)

/-- A fetch makes one call or none. -/
lemma calls_of_fetch (service : Service) (c : Caller) (f : Fetch) :
    (c.fetch service f).2.calls = c.calls ∨ (c.fetch service f).2.calls = c.calls ++ [f] := by
  cases kept : c.cache.find? f with
  | some old =>
    rw [fetch_of_kept service kept]
    exact .inl rfl
  | none => exact .inr (fetch_of_new service kept).2

/-- A fetch fails just when it makes a call and that call fails. -/
lemma fetch_eq_error_iff {fault : Fault} : (c.fetch service f).1 = .error fault ↔
    service c.calls f = .error fault ∧ (c.fetch service f).2.calls = c.calls ++ [f] := by
  cases kept : c.cache.find? f with
  | some old =>
    rw [fetch_of_kept service kept]
    simp
  | none =>
    obtain ⟨answer_eq, called⟩ := fetch_of_new service kept
    rw [answer_eq]
    exact (and_iff_left called).symm

end Fetch

/-- What is asked of a caller: a reply that it may keep, or one straight from the service. -/
inductive Ask where
  | kept (f : Fetch)
  | direct (f : Fetch)

def answer (service : Service) (c : Caller) : Ask → Except Fault Reply × Caller
  | .kept f => c.fetch service f
  | .direct f => c.fetchDirect service f

structure Turn where
  before : Caller
  ask : Ask
  answer : Except Fault Reply
  after : Caller

/-- The pair under which a turn brought a reply to keep, with that reply. -/
def Turn.gain? (t : Turn) : Option (Pair × Reply) :=
  match t.ask, t.answer with
  | .kept f, .ok reply => some (keyOf f, reply)
  | _, _ => none

def gains (past : List Turn) : List (Pair × Reply) := past.filterMap Turn.gain?

/-- The pairs whose fetch has succeeded. -/
def pairs (past : List Turn) : Finset Pair := ((gains past).map Prod.fst).toFinset

/-- The cache holds the first gain of every pair, and no pair twice. -/
structure Keeps (past : List Turn) (c : Caller) : Prop where
  distinct : (c.cache.entries.map Prod.fst).Nodup
  holds : ∀ pair, c.cache.entries.lookup pair = (gains past).lookup pair

lemma gains_append (past : List Turn) (t : Turn) :
    gains (past ++ [t]) = gains past ++ t.gain?.toList := by
  cases gain : t.gain? <;> simp [gains, gain]

lemma notMem_pairs_iff {past : List Turn} {pair : Pair} :
    pair ∉ pairs past ↔ (gains past).lookup pair = none := by
  rw [List.lookup_eq_none_iff]
  simp only [pairs, List.mem_toFinset, List.mem_map, bne_iff_ne]
  constructor
  · intro absent gain member same
    exact absent ⟨gain, member, same.symm⟩
  · rintro absent ⟨gain, member, same⟩
    exact absent gain member same.symm

lemma mem_pairs_iff {past : List Turn} {pair : Pair} :
    pair ∈ pairs past ↔ ∃ reply, (gains past).lookup pair = some reply := by
  rw [← not_iff_not, notMem_pairs_iff]
  cases (gains past).lookup pair <;> simp

namespace Keeps
variable {past : List Turn} {c : Caller}

lemma find?_eq (keeps : Keeps past c) (f : Fetch) :
    c.cache.find? f = (gains past).lookup (keyOf f) := keeps.holds (keyOf f)

lemma size_eq (keeps : Keeps past c) : c.cache.size = (pairs past).card := by
  have same : pairs past = (c.cache.entries.map Prod.fst).toFinset := by
    ext pair
    rw [mem_pairs_iff, ← keeps.holds, ← Option.isSome_iff_exists, List.lookup_isSome_iff,
      List.mem_toFinset, List.mem_map]
    simp only [beq_iff_eq, @eq_comm _ pair]
  rw [same, List.toFinset_card_of_nodup keeps.distinct, List.length_map, size]

/-- A new gain goes to the front of the cache and to the end of the past. -/
lemma add (keeps : Keeps past c) {t : Turn} {f : Fetch} {reply : Reply} {calls : List Fetch}
    (new : c.cache.find? f = none) (gain : t.gain? = some (keyOf f, reply)) :
    Keeps (past ++ [t]) ⟨c.cache.add f reply, calls⟩ := by
  constructor
  · have absent : ∀ entry ∈ c.cache.entries, keyOf f ≠ entry.1 := by
      simpa [find?, List.lookup_eq_none_iff] using new
    refine List.nodup_cons.mpr ⟨?_, keeps.distinct⟩
    rintro member
    obtain ⟨entry, held, same⟩ := List.mem_map.mp member
    exact absent entry held same.symm
  · intro pair
    rw [gains_append, gain, List.lookup_append, ← keeps.holds]
    by_cases same : pair = keyOf f
    · subst pair
      have missing : c.cache.entries.lookup (keyOf f) = none := new
      simp [ReplyCache.add, missing]
    · have other : (pair == keyOf f) = false := beq_eq_false_iff_ne.mpr same
      simp [ReplyCache.add, List.lookup_cons, other]

/-- A turn that leaves the cache alone and gains nothing that is not kept already. -/
lemma idle (keeps : Keeps past c) {t : Turn} {after : Caller} (same : after.cache = c.cache)
    (old : ∀ pair reply, t.gain? = some (pair, reply) →
      c.cache.entries.lookup pair = some reply) : Keeps (past ++ [t]) after := by
  refine ⟨same ▸ keeps.distinct, fun pair => ?_⟩
  rw [same, gains_append, List.lookup_append, ← keeps.holds]
  cases gain : t.gain? with
  | none => simp
  | some entry =>
    obtain ⟨other, reply⟩ := entry
    have held := old other reply gain
    by_cases h : pair = other
    · subst pair
      simp [held]
    · have differs : (pair == other) = false := beq_eq_false_iff_ne.mpr h
      simp [List.lookup_cons, differs]

end Keeps

private def page (bearer : Option String) : Fetch := ⟨⟨"http", none, .plain "x", none, none⟩, bearer⟩

private def script : List Ask :=
  [.kept (page none), .kept (page none), .direct (page none), .kept (page none),
    .kept (page (some "t"))]

end Shakedown.Caller
