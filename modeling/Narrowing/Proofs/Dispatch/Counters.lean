import Narrowing.Proofs.Access.Rewrite
import Narrowing.Proofs.Dispatch.Chain
import Mathlib.Algebra.GroupWithZero.Nat
/-!
# What the counters of a generator count

A generator notes how many chains it has made, how many branches they have, and how many
accesses it has replaced. The first two are noted when a chain is finished. That is not yet
when it is returned: its types are still to be written into the log, and if one of them cannot
be written, the chain is lost (`Generator.unnoted`). The accesses are counted while the branches
are made, one type after the other, and so a request that fails at a type leaves those counted
which were replaced for the types before, and those which the code of an accessor replaced before
it failed (`Generator.wasted`). The three counters therefore do not speak of what has been returned
alone, and not of the same requests (`Generator.serve_counters`).

What is counted is what is there to be seen: for each branch, the calls of the body at a
place that the accessor of its type replaces (`Generator.replacedFor`).
-/

namespace Narrowing

open Code

namespace Generator

variable {α κ π : Type}

/-- **A request for a dispatch.** -/
structure Request (α : Type) where
  /-- The variable to be tested. -/
  var : String
  /-- The types of the branches. -/
  types : List (Descriptor α)
  /-- What is copied into them. -/
  template : Template

/-- The statements of a request; a template that is no code has none. -/
def Request.body (q : Request α) : List Node := q.template.body.toOption.getD []

/-- What a request gives. -/
abbrev Answer (α κ π : Type) := Logged (Note α) (DispatchFault α) (Dispatch α κ π)

section

variable [Named α] (g : Generator α κ π)

/-- **Serves requests in order**: each of them with what it gives, and the counters at the
end. -/
def serve (counters : Counters) :
    List (Request α) → List (Request α × Answer α κ π) × Counters
  | [] => ([], counters)
  | q :: qs =>
    let (answer, counters) := g.generateFrom counters q.var q.types q.template
    let (answers, counters) := serve counters qs
    ((q, answer) :: answers, counters)

/-- **How many calls are replaced** in the copy of a body for a type. -/
def replacedFor (q : Request α) (d : Descriptor α) : Nat :=
  match g.table.lookup d with
  | .ok a => (Node.placesOfBody q.body).countP (Rewriter.replaces ⟨q.var, a, g.accessorNames⟩)
  | .error _ => 0

/-- Whether the branch of a type can be made. -/
def isServed (q : Request α) (d : Descriptor α) : Bool := (g.branch q.var q.body d).1.isOk

/-- How many calls the code of the accessor for a type replaces before it fails. -/
def brokenOff (q : Request α) (d : Descriptor α) : Nat :=
  if g.isServed q d then 0 else (g.branch q.var q.body d).2

/-- **What a failing request replaces for nothing**: the calls in the copies for the types
before the first whose branch cannot be made, and those replaced for that one before it fails. -/
def wasted (q : Request α) : Nat :=
  ((q.types.takeWhile (g.isServed q)).map (g.replacedFor q)).sum +
    (((q.types.dropWhile (g.isServed q)).head?).map (g.brokenOff q)).getD 0

/-- Whether the chain of a request is finished, though it may not be returned. -/
def isFinished (q : Request α) : Bool :=
  !q.types.isEmpty && !q.body.isEmpty && q.types.all (g.isServed q)

/-- The calls that are replaced in the bodies of the branches of an answer. -/
def replacedIn (q : Request α) (answer : Answer α κ π) : Nat :=
  match answer.result with
  | .ok d => (d.types.map (g.replacedFor q)).sum
  | .error _ => 0

/-- The calls that are replaced for a request which gives no dispatch. -/
def wastedIn (q : Request α) (answer : Answer α κ π) : Nat :=
  match answer.result with
  | .ok _ => 0
  | .error _ => g.wasted q

/-- The requests whose chains are finished and not returned. -/
def unnoted (answers : List (Request α × Answer α κ π)) : List (Request α) :=
  (answers.filter fun a => g.isFinished a.1 && !a.2.result.isOk).map Prod.fst

end

/-- The dispatches that some answers return. -/
def returned (answers : List (Request α × Answer α κ π)) : List (Dispatch α κ π) :=
  answers.filterMap fun a => a.2.result.toOption

/-! ## One request -/

variable [Named α] {g : Generator α κ π} {q : Request α}

/-- What is counted for a branch is what is replaced in its body. -/
theorem branch_count {d : Descriptor α} {b : Branch α κ π} {n : Nat}
    (h : g.branch q.var q.body d = (.ok b, n)) : n = g.replacedFor q d := by
  unfold branch at h
  split at h
  · cases h
  · split at h
    · cases h
    · next a ha =>
      dsimp only at h
      split at h
      · cases h
      · obtain rfl := (Prod.mk.inj h).2
        rw [replacedFor, ha, Rewriter.applyList_body]

/-- The count goes up to the first type whose branch cannot be made. -/
theorem branchesFor_count (ds : List (Descriptor α)) :
    (g.branchesFor q.var q.body ds).2 =
      ((ds.takeWhile (g.isServed q)).map (g.replacedFor q)).sum +
        (((ds.dropWhile (g.isServed q)).head?).map (g.brokenOff q)).getD 0 := by
  induction ds with
  | nil => rfl
  | cons d ds ih =>
    rw [branchesFor, List.takeWhile_cons, List.dropWhile_cons]
    rcases hb : g.branch q.var q.body d with ⟨f | b, n⟩
    · have hnot : g.isServed q d = false := by rw [isServed, hb]; rfl
      rw [hnot]
      show n = 0 + g.brokenOff q d
      rw [brokenOff, hnot, hb, Nat.zero_add]
      rfl
    · have hserved : g.isServed q d = true := by rw [isServed, hb]; rfl
      rw [hserved]
      show n + (g.branchesFor q.var q.body ds).2 = (List.map _ (d :: _)).sum + _
      rw [ih, List.map_cons, List.sum_cons, branch_count hb, Nat.add_assoc, if_pos rfl]

/-- If all branches are made, the count is of all types. -/
theorem branchesFor_count_of_ok {ds : List (Descriptor α)} {bs : List (Branch α κ π)} {n : Nat}
    (h : g.branchesFor q.var q.body ds = (.ok bs, n)) : n = (ds.map (g.replacedFor q)).sum := by
  induction ds generalizing bs n with
  | nil => exact (Prod.mk.inj h).2.symm
  | cons d ds ih =>
    rw [branchesFor] at h
    rcases hb : g.branch q.var q.body d with ⟨f | b, m⟩
    · rw [hb] at h
      cases h
    · rcases hrest : g.branchesFor q.var q.body ds with ⟨_ | rest, k⟩
      · rw [hb, hrest] at h
        cases h
      · rw [hb, hrest] at h
        rw [← (Prod.mk.inj h).2, List.map_cons, List.sum_cons, branch_count hb, ih hrest]

/-- They are made just if each can be made. -/
theorem branchesFor_isOk (ds : List (Descriptor α)) :
    (g.branchesFor q.var q.body ds).1.isOk = ds.all (g.isServed q) := by
  induction ds with
  | nil => rfl
  | cons d ds ih =>
    rw [branchesFor, List.all_cons, ← ih, isServed]
    rcases g.branch q.var q.body d with ⟨f | b, n⟩
    · rfl
    · rcases g.branchesFor q.var q.body ds with ⟨f | bs, k⟩ <;> rfl

/-- The counters after an answer: what it returns, what was finished and not returned, and what
was replaced for it is added. -/
def Counters.after (g : Generator α κ π) (counters : Counters) (q : Request α)
    (answer : Answer α κ π) : Counters where
  dispatches := counters.dispatches + (returned [(q, answer)]).length +
    (g.unnoted [(q, answer)]).length
  branches := counters.branches + ((returned [(q, answer)]).map fun d => d.branches.length).sum +
    ((g.unnoted [(q, answer)]).map fun q => q.types.length).sum
  rewritten := counters.rewritten + (g.replacedIn q answer + g.wastedIn q answer)

/-- **What is asked of a request**: its answer returns a dispatch just if its chain is finished and
its types can be written, and the counters speak of the answer. -/
structure Settles (g : Generator α κ π) (counters : Counters) (q : Request α)
    (answer : Answer α κ π) (after : Counters) : Prop where
  isOk : answer.result.isOk ↔ g.isFinished q ∧ ∀ d ∈ q.types, d.isWritable
  counters : after = Counters.after g counters q answer

/-- The code of an accessor fails before it has replaced all calls. -/
theorem brokenOff_le (q : Request α) (d : Descriptor α) : g.brokenOff q d ≤ g.replacedFor q d := by
  unfold brokenOff
  split
  · exact Nat.zero_le _
  · unfold branch replacedFor
    split
    · exact Nat.zero_le _
    · split
      · exact Nat.zero_le _
      · next a ha =>
        rw [ha, Rewriter.applyList_body]
        dsimp only
        split
        · next hlimit => exact Nat.le_of_lt (of_decide_eq_true (Option.filter_eq_some_iff.1 hlimit).2)
        · exact Nat.le_refl _

theorem wasted_of_body_nil (h : q.body = []) : g.wasted q = 0 := by
  have hnone : ∀ d, g.replacedFor q d = 0 := by
    intro d
    rw [replacedFor, h]
    split <;> rfl
  have hbroken : ∀ d, g.brokenOff q d = 0 := fun d => Nat.le_zero.1 (hnone d ▸ brokenOff_le q d)
  rw [wasted, Nat.add_eq_zero_iff, List.sum_eq_zero_iff_forall_eq_nat]
  constructor
  · intro n hn
    obtain ⟨d, -, rfl⟩ := List.mem_map.1 hn
    exact hnone d
  · cases (q.types.dropWhile (g.isServed q)).head? with
    | none => rfl
    | some d => exact hbroken d

/-- A request that cannot even be begun counts nothing. -/
theorem settles_of_unbegun {counters : Counters} {answer : Answer α κ π} {f : DispatchFault α}
    (hanswer : answer.result = .error f) (h : q.types = [] ∨ q.body = []) :
    Settles g counters q answer counters := by
  have hunfinished : g.isFinished q = false := by
    rcases h with h | h <;> simp [isFinished, h]
  have hnone : g.wasted q = 0 := by
    rcases h with h | h
    · rw [wasted, h]
      rfl
    · exact wasted_of_body_nil h
  refine ⟨by simp [hanswer, hunfinished, Except.isOk, Except.toBool], ?_⟩
  unfold Counters.after returned unnoted replacedIn wastedIn
  rw [hanswer, hnone]
  simp [hanswer, hunfinished, Except.toOption]

/-- **What a request counts.** -/
theorem generateFrom_settles (counters : Counters) (q : Request α) :
    Settles g counters q (g.generateFrom counters q.var q.types q.template).1
      (g.generateFrom counters q.var q.types q.template).2 := by
  unfold generateFrom
  split
  · next htypes => exact settles_of_unbegun rfl (.inl (List.isEmpty_iff.1 htypes))
  · next htypes =>
    split
    · next e he =>
      have hbody : q.body = [] := by rw [Request.body, he]; rfl
      exact settles_of_unbegun rfl (.inr hbody)
    · next body hbody =>
      obtain rfl : body = q.body := by rw [Request.body, hbody]; rfl
      unfold generate
      rw [if_neg htypes]
      split
      · next hempty => exact settles_of_unbegun rfl (.inr (List.isEmpty_iff.1 hempty))
      · next hempty =>
        have hcount := branchesFor_count (g := g) (q := q) q.types
        have hserved := branchesFor_isOk (g := g) (q := q) q.types
        have hfinished : g.isFinished q = q.types.all (g.isServed q) := by
          simp [isFinished, htypes, hempty]
        rw [← hserved] at hfinished
        rcases hbs : g.branchesFor q.var q.body q.types with ⟨f | bs, n⟩
        · -- a branch cannot be made
          rw [hbs] at hcount hfinished
          have hnot : g.isFinished q = false := hfinished
          refine ⟨by simp [hnot, Except.isOk, Except.toBool], ?_⟩
          dsimp only at hcount ⊢
          rw [hcount]
          simp [Counters.after, returned, unnoted, hnot, replacedIn, wastedIn, wasted,
            Except.toOption]
        · rw [hbs] at hcount hfinished
          have hyes : g.isFinished q = true := hfinished
          have htypes := (branchesFor_spec hbs).1
          have hlength : bs.length = q.types.length := by rw [← htypes, List.length_map]
          dsimp only
          cases hnoted : q.types.all Descriptor.isWritable with
          | true =>
            refine ⟨by simpa [hyes, Except.isOk, Except.toBool] using hnoted, ?_⟩
            rw [branchesFor_count_of_ok hbs]
            simp [Counters.after, returned, unnoted, replacedIn, wastedIn, Dispatch.types,
              Except.toOption, htypes, Except.isOk, Except.toBool]
          | false =>
            refine ⟨by simpa [hyes, Except.isOk, Except.toBool] using hnoted, ?_⟩
            dsimp only at hcount
            simp [Counters.after, returned, unnoted, hyes, replacedIn, wastedIn, wasted,
              Except.toOption, hlength, hcount, Except.isOk, Except.toBool]

/-- The branches of a dispatch that is returned are made for the request. -/
theorem generateFrom_makes {counters : Counters} {d : Dispatch α κ π}
    (h : (g.generateFrom counters q.var q.types q.template).1.result = .ok d) :
    d.types = q.types ∧ ∀ b ∈ d.branches, g.Makes q.var q.body b := by
  unfold generateFrom at h
  split at h
  · cases h
  · split at h
    · cases h
    · next body hbody =>
      obtain rfl : body = q.body := by rw [Request.body, hbody]; rfl
      exact generate_makes h

/-! ## All requests -/

omit [Named α] in
theorem returned_cons (a : Request α × Answer α κ π) (answers : List (Request α × Answer α κ π)) :
    returned (a :: answers) = returned [a] ++ returned answers := by
  unfold returned
  rw [← List.filterMap_append, List.singleton_append]

theorem unnoted_cons (a : Request α × Answer α κ π) (answers : List (Request α × Answer α κ π)) :
    g.unnoted (a :: answers) = g.unnoted [a] ++ g.unnoted answers := by
  unfold unnoted
  rw [← List.map_append, ← List.filter_append, List.singleton_append]

/-- Nothing is wasted in some answers exactly if nothing is on a request that fails. -/
theorem sum_wastedIn_eq_zero_iff {answers : List (Request α × Answer α κ π)} :
    (answers.map fun a => g.wastedIn a.1 a.2).sum = 0 ↔
      ∀ a ∈ answers, a.2.result.isOk = false → g.wasted a.1 = 0 := by
  rw [List.sum_eq_zero_iff_forall_eq_nat, List.forall_mem_map]
  refine forall₂_congr fun a _ => ?_
  unfold wastedIn
  cases a.2.result with
  | ok d => exact iff_of_true rfl fun h => by cases h
  | error f => exact ⟨fun h _ => h, fun h => h rfl⟩

/-- Each request is answered, and the branches that are returned are made for it. -/
theorem serve_makes (counters : Counters) (qs : List (Request α)) :
    (g.serve counters qs).1.map Prod.fst = qs ∧
      ∀ a ∈ (g.serve counters qs).1, ∀ d, a.2.result = .ok d →
        d.types = a.1.types ∧ ∀ b ∈ d.branches, g.Makes a.1.var a.1.body b := by
  induction qs generalizing counters with
  | nil => exact ⟨rfl, fun a ha => absurd ha List.not_mem_nil⟩
  | cons q qs ih =>
    obtain ⟨hfst, hmakes⟩ := ih (g.generateFrom counters q.var q.types q.template).2
    refine ⟨by rw [serve, List.map_cons, hfst], List.forall_mem_cons.2 ⟨fun d hd => ?_, hmakes⟩⟩
    exact generateFrom_makes hd

/-- Which requests are answered with a dispatch. -/
theorem serve_isOk (counters : Counters) (qs : List (Request α)) :
    ∀ a ∈ (g.serve counters qs).1,
      (a.2.result.isOk ↔ g.isFinished a.1 ∧ ∀ d ∈ a.1.types, d.isWritable) := by
  induction qs generalizing counters with
  | nil => exact fun a ha => absurd ha List.not_mem_nil
  | cons q qs ih => exact List.forall_mem_cons.2 ⟨(generateFrom_settles counters q).isOk, ih _⟩

/-- **The counters after some requests**: what each of them counts adds up. -/
theorem serve_after (counters : Counters) (qs : List (Request α)) :
    let answers := (g.serve counters qs).1
    (g.serve counters qs).2 =
      { dispatches := counters.dispatches + (returned answers).length + (g.unnoted answers).length
        branches := counters.branches + ((returned answers).map fun d => d.branches.length).sum +
          ((g.unnoted answers).map fun q => q.types.length).sum
        rewritten := counters.rewritten + ((answers.map fun a => g.replacedIn a.1 a.2).sum +
          (answers.map fun a => g.wastedIn a.1 a.2).sum) } := by
  induction qs generalizing counters with
  | nil => rfl
  | cons q qs ih =>
    have hstep := (generateFrom_settles (g := g) counters q).counters
    dsimp only [serve] at ih ⊢
    rw [ih, returned_cons, unnoted_cons, hstep, Counters.after]
    simp only [List.map_cons, List.sum_cons, List.length_append, List.map_append, List.sum_append,
      Counters.mk.injEq]
    omega

/-- No chain is lost on the way into the log exactly if the types of each chain that is finished
can be written. -/
theorem unnoted_serve_eq_nil_iff (counters : Counters) (qs : List (Request α)) :
    g.unnoted (g.serve counters qs).1 = [] ↔
      ∀ a ∈ (g.serve counters qs).1, g.isFinished a.1 → ∀ d ∈ a.1.types, d.isWritable := by
  rw [unnoted, List.map_eq_nil_iff, List.filter_eq_nil_iff]
  refine forall₂_congr fun a ha => ?_
  rw [Bool.and_eq_true, Bool.not_eq_true', not_and, Bool.not_eq_false]
  exact forall_congr' fun hfinished => (serve_isOk counters qs a ha).trans (and_iff_right hfinished)

/-- **What a generator has counted** after some requests, of which some may have failed.
The dispatches that were returned are made for their requests, and these are the requests whose
chain is finished and whose types can be written. The first two counters are those of these
dispatches and their branches, and of the chains that were finished and not returned; the third is
that of the calls replaced in the bodies of the branches returned and of those replaced for the
requests that failed. So the first two counters tell what has been returned exactly if the types of
every finished chain can be written, and the third does exactly if no call was replaced for a
request that failed. -/
theorem serve_counters (g : Generator α κ π) (counters : Counters) (qs : List (Request α)) :
    let answers := (g.serve counters qs).1
    let after := (g.serve counters qs).2
    let branches := ((returned answers).map fun d => d.branches.length).sum
    let replaced := (answers.map fun a => g.replacedIn a.1 a.2).sum
    (answers.map Prod.fst = qs ∧
      (∀ a ∈ answers, a.2.result.isOk ↔ g.isFinished a.1 ∧ ∀ d ∈ a.1.types, d.isWritable) ∧
      ∀ a ∈ answers, ∀ d, a.2.result = .ok d →
        d.types = a.1.types ∧ ∀ b ∈ d.branches, g.Makes a.1.var a.1.body b) ∧
      (after.dispatches = counters.dispatches + (returned answers).length +
          (g.unnoted answers).length ∧
        after.branches = counters.branches + branches +
          ((g.unnoted answers).map fun q => q.types.length).sum ∧
        after.rewritten = counters.rewritten + (replaced +
          (answers.map fun a => g.wastedIn a.1 a.2).sum)) ∧
      (after.dispatches = counters.dispatches + (returned answers).length ∧
          after.branches = counters.branches + branches ↔
        ∀ a ∈ answers, g.isFinished a.1 → ∀ d ∈ a.1.types, d.isWritable) ∧
      (after.rewritten = counters.rewritten + replaced ↔
        ∀ a ∈ answers, a.2.result.isOk = false → g.wasted a.1 = 0) := by
  intro answers after branches replaced
  have hafter : after = _ := serve_after counters qs
  obtain ⟨hfst, hmakes⟩ := serve_makes (g := g) counters qs
  refine ⟨⟨hfst, serve_isOk counters qs, hmakes⟩, ⟨congrArg Counters.dispatches hafter,
    congrArg Counters.branches hafter, congrArg Counters.rewritten hafter⟩, ?_, ?_⟩
  · rw [hafter, ← unnoted_serve_eq_nil_iff, ← List.length_eq_zero_iff]
    constructor
    · intro h
      exact Nat.left_eq_add.1 h.1.symm
    · intro h
      have hnil := List.length_eq_zero_iff.1 h
      exact ⟨by rw [h]; rfl, by rw [hnil]; rfl⟩
  · rw [hafter, ← sum_wastedIn_eq_zero_iff]
    show counters.rewritten + (replaced + (answers.map fun a => g.wastedIn a.1 a.2).sum) = _ ↔ _
    omega

/-- Two atoms with a test, of which one cannot be written, and one without a test. -/
inductive Kind where
  | shown
  | nameless
  | untested
deriving DecidableEq

instance : Named Kind where
  name? k := if k = .nameless then none else some "kind"

/-- An oracle over these. -/
def kinds : Oracle Kind Unit Unit where
  atomicSubtype a b := a = b
  atomicTest k := if k = .untested then .error (.undeclared k) else .ok (.instanceOf ())
  everything := ()

/-- A generator that makes every access a subscript. -/
def kindGenerator : Generator Kind Unit Unit where
  oracle := kinds.byLevels fun _ => 0
  table := ⟨kinds.byLevels fun _ => 0, [⟨.top, .textIndex⟩]⟩

/-- A request with one access for each type. -/
def kindRequest (types : List (Descriptor Kind)) : Request Kind :=
  ⟨"v", types, .code [.returnStmt [.call (.load "elt") [.load "v", .constant (.int 0)] []]]⟩

/-- The access made for the first type is counted, though the second has no test and nothing is
returned. -/
example : (kindGenerator.serve {} [kindRequest [.atom .shown, .atom .untested]]).2 =
    { dispatches := 0, branches := 0, rewritten := 1 } := by
  decide

/-- All is counted, though the second type cannot be written and nothing is returned. -/
example : (kindGenerator.serve {} [kindRequest [.atom .shown, .atom .nameless]]).2 =
    { dispatches := 1, branches := 2, rewritten := 2 } := by
  decide

end Generator

end Narrowing
