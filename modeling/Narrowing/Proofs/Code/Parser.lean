import Narrowing.Code.Parser
import Narrowing.Proofs.Code.Grammar
/-!
# What is read as a statement

Whatever the text, the statements that are read from it are statements, all the way down
(`parse_are`): expressions stand where expressions should, and declarations only where
statements do. In particular the parameters of a definition are a list of parameters
(`Node.IsParameterList`).
-/

namespace Narrowing.Code

open Reader Node

namespace Node

/-- A parameter of a function. -/
def IsParameter : Node → Prop
  | .arg .. => True
  | _ => False

/-- **A parameter list**: what stands in it are parameters. -/
def IsParameterList (n : Node) : Prop :=
  ∃ posonly args vararg kwonly kwDefaults kwarg defaults,
    n = .arguments posonly args vararg kwonly kwDefaults kwarg defaults ∧
    ∀ m ∈ posonly ++ args ++ vararg ++ kwonly ++ kwarg, m.IsParameter

theorem exists_of_isParameter {n : Node} (h : n.IsParameter) : ∃ name hint, n = .arg name hint := by
  unfold IsParameter at h
  split at h
  · exact ⟨_, _, rfl⟩
  · exact h.elim

theorem isParameter_of_is {n : Node} (h : n.Is .parameter) : n.IsParameter := by
  obtain ⟨k, slots⟩ := n
  obtain ⟨hpart, hslots⟩ := h
  cases k with
  | arg name =>
    match slots, hslots with
    | [hint], _ => trivial
  | _ => cases hpart

/-- The parameters of a function are a parameter list. -/
theorem isParameterList_of_is {n : Node} (h : n.Is .parameters) : n.IsParameterList := by
  obtain ⟨k, slots⟩ := n
  obtain ⟨hpart, hslots⟩ := h
  cases k with
  | arguments =>
    match slots, hslots with
    | [posonly, args, vararg, kwonly, kwDefaults, kwarg, defaults],
      ⟨hposonly, hargs, hvararg, hkwonly, _, hkwarg, _, _⟩ =>
      refine ⟨posonly, args, vararg, kwonly, kwDefaults, kwarg, defaults, rfl, ?_⟩
      simp only [List.forall_mem_append]
      simp only [allAre_iff] at hposonly hargs hvararg hkwonly hkwarg
      exact ⟨⟨⟨⟨fun m hm => isParameter_of_is (hposonly m hm),
        fun m hm => isParameter_of_is (hargs m hm)⟩,
        fun m hm => isParameter_of_is (hvararg m hm)⟩,
        fun m hm => isParameter_of_is (hkwonly m hm)⟩,
        fun m hm => isParameter_of_is (hkwarg m hm)⟩
  | _ => cases hpart

end Node

/-! ## Statements -/

theorem reads_requireSingle {n : Node} (hn : n.Is .expression) :
    Reads (Is .expression) (Grammar.requireSingle n) := by
  unfold Grammar.requireSingle
  split
  · exact reads_requireTarget hn
  · exact reads_requireTarget hn
  · exact reads_requireTarget hn
  · exact reads_stop

namespace Grammar

variable {g : Grammar} (hg : g.IsProper)

theorem reads_importedNames : Reads (AllAre .importedName) importedNames := by
  have hone : Reads (Is .importedName) (do
      let name ← identifier
      return .importedName name (← asName)) :=
    reads_bind fun name => reads_bind fun asname => reads_pure ⟨rfl, trivial⟩
  unfold importedNames
  refine reads_choose (reads_pure ⟨⟨rfl, trivial⟩, trivial⟩) (reads_choose ?_ ?_)
  · refine hone.bind fun first hfirst => hone.afterCommas.bind ?_
    rintro ⟨rest, trailing⟩ hrest
    exact reads_bind fun _ => reads_pure ⟨hfirst, allAre_iff.2 hrest⟩
  · refine hone.bind fun first hfirst => hone.afterCommas.bind ?_
    rintro ⟨rest, trailing⟩ hrest
    dsimp only
    split
    · exact reads_stop
    · exact reads_pure ⟨hfirst, allAre_iff.2 hrest⟩

include hg

theorem reads_assignment : Reads (Is .statement) (assignment g) := by
  unfold assignment
  refine (reads_yieldOrExpressions hg).bind fun first hfirst => reads_choose ?_ ?_
  · refine (reads_requireSingle hfirst).bind fun target htarget => ?_
    refine hg.expression.bind fun hint hhint => reads_choose ?_ ?_
    · exact (reads_yieldOrExpressions hg).bind fun e he =>
        reads_pure ⟨rfl, ⟨htarget, trivial⟩, ⟨hhint, trivial⟩, ⟨he, trivial⟩, trivial⟩
    · exact reads_pure ⟨rfl, ⟨htarget, trivial⟩, ⟨hhint, trivial⟩, trivial, trivial⟩
  · refine reads_bind fun op => ?_
    split
    · refine (reads_requireSingle hfirst).bind fun target htarget => ?_
      exact (reads_yieldOrExpressions hg).bind fun e he =>
        reads_pure ⟨rfl, ⟨htarget, trivial⟩, ⟨he, trivial⟩, trivial⟩
    · refine (Reads.many (reads_choose (reads_yieldOrExpressions hg).some readsAny_none)).bind
        fun rest hrest => ?_
      split
      · next value b bs hreverse =>
        have hall : ∀ n ∈ value :: b :: bs, n.Is .expression := by
          rw [← hreverse]
          simpa [or_imp, forall_and, and_comm] using And.intro hfirst hrest
        obtain ⟨hvalue, hbefore⟩ := List.forall_mem_cons.1 hall
        split
        · next targets htargets =>
          have hreversed : AllAre .expression (b :: bs).reverse :=
            allAre_iff.2 fun n hn => hbefore n (List.mem_reverse.1 hn)
          exact reads_pure ⟨rfl, asTargets_are _ hreversed htargets, ⟨hvalue, trivial⟩, trivial⟩
        · exact reads_stop
      · exact reads_pure ⟨rfl, ⟨hfirst, trivial⟩, trivial⟩

theorem reads_simpleStatement : Reads (Is .statement) (simpleStatement g) := by
  unfold simpleStatement
  refine reads_choose (reads_choose (reads_pure ⟨rfl, trivial, trivial⟩) ?_) ?_
  · exact (reads_starExpressions hg).bind fun e he => reads_pure ⟨rfl, ⟨he, trivial⟩, trivial⟩
  refine reads_choose (reads_pure ⟨rfl, trivial⟩) (reads_choose (reads_pure ⟨rfl, trivial⟩) ?_)
  refine reads_choose (reads_pure ⟨rfl, trivial⟩) ?_
  refine reads_choose (reads_bind fun names => reads_pure ⟨rfl, trivial⟩) ?_
  refine reads_choose (reads_bind fun names => reads_pure ⟨rfl, trivial⟩) ?_
  refine reads_choose ?_ (reads_choose ?_ (reads_choose ?_ (reads_choose ?_ (reads_choose ?_ ?_))))
  · refine reads_choose (reads_pure ⟨rfl, trivial, trivial, trivial⟩) ?_
    refine hg.expression.bind fun e he => reads_choose (hg.expression.bind fun cause hcause => ?_) ?_
    · exact reads_pure ⟨rfl, ⟨he, trivial⟩, ⟨hcause, trivial⟩, trivial⟩
    · exact reads_pure ⟨rfl, ⟨he, trivial⟩, trivial, trivial⟩
  · refine hg.expression.bind fun e he => reads_choose (hg.expression.bind fun msg hmsg => ?_) ?_
    · exact reads_pure ⟨rfl, ⟨he, trivial⟩, ⟨hmsg, trivial⟩, trivial⟩
    · exact reads_pure ⟨rfl, ⟨he, trivial⟩, trivial, trivial⟩
  · refine hg.primary.bind fun first hfirst => hg.primary.afterCommas.bind ?_
    rintro ⟨rest, trailing⟩ hrest
    dsimp only
    split
    · next ts hts =>
      exact reads_pure ⟨rfl, asTargets_are (first :: rest) ⟨hfirst, allAre_iff.2 hrest⟩ hts, trivial⟩
    · exact reads_stop
  · have hone : Reads (Is .importedName) (do
        let name ← dottedName
        return .importedName name (← asName)) :=
      reads_bind fun name => reads_bind fun asname => reads_pure ⟨rfl, trivial⟩
    refine hone.bind fun first hfirst => ?_
    refine (Reads.many (reads_choose hone.some readsAny_none)).bind fun rest hrest => ?_
    exact reads_pure ⟨rfl, ⟨hfirst, allAre_iff.2 hrest⟩, trivial⟩
  · have himport : ∀ module level, Reads (Is .statement) (do
        expect "import"
        return .importFrom module level (← importedNames)) := fun module level =>
      reads_bind fun _ => reads_importedNames.bind fun ns hns => reads_pure ⟨rfl, hns, trivial⟩
    refine reads_bind fun level => reads_bind fun b => ?_
    dsimp only
    split
    · exact himport none level
    · exact reads_bind fun name => himport (some name) level
  · exact reads_assignment hg

theorem reads_simpleLine : Reads (AllAre .statement) (simpleLine g) := by
  unfold simpleLine
  refine (reads_simpleStatement hg).bind fun first hfirst => ?_
  refine (Reads.many (P := Is .statement) ?_).bind fun rest hrest =>
    reads_bind fun _ => reads_pure ⟨hfirst, allAre_iff.2 hrest⟩
  refine reads_choose (reads_bind fun t => ?_) readsAny_none
  split
  · exact readsAny_none
  · exact (reads_simpleStatement hg).some

/-! ## Blocks -/

theorem reads_blockBody : Reads (AllAre .statement) (blockBody g) := by
  unfold blockBody
  refine (Reads.many (P := AllAre .statement) ?_).bind fun groups hgroups =>
    reads_pure (allAre_iff.2 fun n hn => ?_)
  · refine reads_bind fun t => ?_
    split
    · exact readsAny_none
    · exact readsAny_none
    · exact hg.statement.some
  · obtain ⟨ns, hns, hn⟩ := List.mem_flatten.1 hn
    exact allAre_iff.1 (hgroups ns hns) n hn

theorem reads_block : Reads (AllAre .statement) (block g) := by
  unfold block
  refine reads_bind fun _ => reads_bind fun t => ?_
  split
  · refine reads_bind fun _ => reads_bind fun t => ?_
    split
    · refine reads_bind fun _ => (reads_blockBody hg).bind fun body hbody => reads_bind fun t => ?_
      split
      · exact reads_bind fun _ => reads_pure hbody
      · exact reads_stop
    · exact reads_stop
    · exact reads_stop
    · intro ts a rest h
      cases h
  · exact reads_simpleLine hg

theorem reads_blockAfter (word : String) : Reads (AllAre .statement) (blockAfter g word) :=
  reads_choose (reads_block hg) (reads_pure trivial)

theorem reads_choice (n : Nat) : Reads (Is .statement) (choice g n) := by
  induction n with
  | zero => exact reads_stop
  | succ n ih =>
    refine (reads_named hg).bind fun test htest => (reads_block hg).bind fun body hbody => ?_
    refine reads_choose (ih.bind fun other hother => ?_) ?_
    · exact reads_pure ⟨rfl, ⟨htest, trivial⟩, hbody, ⟨hother, trivial⟩, trivial⟩
    · exact (reads_blockAfter hg "else").bind fun orelse horelse =>
        reads_pure ⟨rfl, ⟨htest, trivial⟩, hbody, horelse, trivial⟩

theorem reads_loop (isAsync : Bool) : Reads (Is .statement) (loop g isAsync) := by
  unfold loop
  refine (reads_targets hg).bind fun t ht => reads_bind fun _ => ?_
  refine (reads_starExpressions hg).bind fun iter hiter => (reads_block hg).bind fun body hbody => ?_
  exact (reads_blockAfter hg "else").bind fun orelse horelse =>
    reads_pure ⟨rfl, ⟨ht, trivial⟩, ⟨hiter, trivial⟩, hbody, horelse, trivial⟩

theorem reads_withItem : Reads (Is .withItem) (withItem g) := by
  unfold withItem
  refine hg.expression.bind fun context hcontext => reads_choose ?_ ?_
  · refine (reads_target hg).bind fun t ht => (reads_requireTarget ht).bind fun u hu => ?_
    exact reads_pure ⟨rfl, ⟨hcontext, trivial⟩, ⟨hu, trivial⟩, trivial⟩
  · exact reads_pure ⟨rfl, ⟨hcontext, trivial⟩, trivial, trivial⟩

theorem reads_bracketedItems : Reads (AllAre .withItem) (bracketedItems g) := by
  unfold bracketedItems
  refine reads_bind fun _ => (reads_withItem hg).bind fun first hfirst =>
    (reads_withItem hg).afterCommas.bind ?_
  rintro ⟨rest, trailing⟩ hrest
  exact reads_bind fun _ =>
    reads_choose (reads_pure ⟨hfirst, allAre_iff.2 hrest⟩) reads_stop

theorem reads_withBlock (isAsync : Bool) : Reads (Is .statement) (withBlock g isAsync) := by
  have hattempt : ReadsAny (AllAre .withItem) (attempt (bracketedItems g)) := by
    intro ts o rest h
    unfold attempt at h
    split at h
    · next items ts' hitems =>
      obtain ⟨rfl, -⟩ := Prod.mk.inj (Except.ok.inj h)
      exact fun a ha => Option.some.inj ha ▸ reads_bracketedItems hg ts items ts' hitems
    · obtain ⟨rfl, -⟩ := Prod.mk.inj (Except.ok.inj h)
      exact fun a ha => by cases ha
  have hblock : ∀ items, AllAre .withItem items → Reads (Is .statement) (do
      return .withStmt isAsync items (← block g)) := fun items hitems =>
    (reads_block hg).bind fun body hbody => reads_pure ⟨rfl, hitems, hbody, trivial⟩
  unfold withBlock
  refine hattempt.bind fun o ho => ?_
  cases o with
  | some items => exact hblock items (ho items rfl)
  | none =>
    refine (reads_withItem hg).bind fun first hfirst => ?_
    refine (Reads.many (reads_choose (reads_withItem hg).some readsAny_none)).bind
      fun rest hrest => ?_
    exact hblock (first :: rest) ⟨hfirst, allAre_iff.2 hrest⟩

theorem reads_handler : ReadsAny (Is .handler) (handler g) := by
  unfold handler
  refine reads_choose (reads_choose ?_ ?_) readsAny_none
  · exact (reads_block hg).bind fun body hbody => readsAny_some ⟨rfl, trivial, hbody, trivial⟩
  · refine hg.expression.bind fun type htype => reads_bind fun name => ?_
    exact (reads_block hg).bind fun body hbody =>
      readsAny_some ⟨rfl, ⟨htype, trivial⟩, hbody, trivial⟩

theorem reads_tryBlock : Reads (Is .statement) (tryBlock g) := by
  unfold tryBlock
  refine (reads_block hg).bind fun body hbody => ?_
  refine (reads_handler hg).many.bind fun handlers hhandlers => ?_
  have hrest : ∀ orelse, AllAre .statement orelse → Reads (Is .statement) (do
      let finalbody ← blockAfter g "finally"
      if handlers.isEmpty && finalbody.isEmpty then missing
      else return .tryStmt body handlers orelse finalbody) := by
    refine fun orelse horelse => (reads_blockAfter hg "finally").bind fun finalbody hfinalbody => ?_
    split
    · intro ts n rest h
      unfold missing at h
      split at h <;> cases h
    · exact reads_pure ⟨rfl, hbody, allAre_iff.2 hhandlers, horelse, hfinalbody, trivial⟩
  dsimp only
  split
  · exact hrest [] trivial
  · exact (reads_blockAfter hg "else").bind hrest

theorem reads_function {isAsync : Bool} {decorators : List Node}
    (hdecorators : AllAre .expression decorators) :
    Reads (Is .statement) (function g isAsync decorators) := by
  unfold function
  refine reads_bind fun name => reads_bind fun _ => ?_
  refine (reads_parameters hg true ")").bind fun ps hps => reads_bind fun _ => ?_
  have hrest : ∀ returns, AllAre .expression returns → Reads (Is .statement) (do
      return .functionDef name isAsync ps (← block g) decorators returns) := fun returns hreturns =>
    (reads_block hg).bind fun body hbody =>
      reads_pure ⟨rfl, ⟨hps, trivial⟩, hbody, hdecorators, hreturns, trivial⟩
  exact reads_choose (hg.expression.bind fun e he => hrest [e] ⟨he, trivial⟩) (hrest [] trivial)

theorem reads_classBlock {decorators : List Node} (hdecorators : AllAre .expression decorators) :
    Reads (Is .statement) (classBlock g decorators) := by
  unfold classBlock
  refine reads_bind fun name => ?_
  have hrest : ∀ bases keywords, AllAre .expression bases → AllAre .keyword keywords →
      Reads (Is .statement) (do return .classDef name bases keywords (← block g) decorators) :=
    fun bases keywords hbases hkeywords => (reads_block hg).bind fun body hbody =>
      reads_pure ⟨rfl, hbases, hkeywords, hbody, hdecorators, trivial⟩
  refine reads_choose ((reads_arguments hg false).bind ?_) (hrest [] [] trivial trivial)
  rintro ⟨bases, keywords⟩ ⟨hbases, hkeywords⟩
  exact hrest bases keywords hbases hkeywords

theorem reads_decorators : Reads (AllAre .expression) (decorators g) := by
  have hdecorators : ReadsAll (Is .expression) (decorators g) := by
    refine Reads.many (reads_choose ?_ readsAny_none)
    exact (reads_named hg).bind fun d hd => reads_bind fun _ => readsAny_some hd
  exact fun ts ns rest h => allAre_iff.2 (hdecorators ts ns rest h)

omit hg in
/-- A statement alone. -/
theorem reads_single {p : Reader Node} (hp : Reads (Is .statement) p) :
    Reads (AllAre .statement) (do return [← p]) :=
  hp.bind fun _ hn => reads_pure ⟨hn, trivial⟩

/-- **What is read as statements** are statements. -/
theorem reads_statementRule : Reads (AllAre .statement) (statementRule g) := by
  unfold statementRule
  refine (reads_decorators hg).bind fun ds hds => ?_
  refine reads_choose (reads_single (reads_function hg hds)) ?_
  refine reads_choose (reads_single (reads_classBlock hg hds)) ?_
  refine reads_bind fun isAsync => reads_bind fun second => ?_
  split
  · exact reads_bind fun _ => reads_bind fun _ => reads_single (reads_function hg hds)
  split
  · exact reads_stop
  refine reads_choose (reads_bind fun tokens => reads_single (reads_choice hg tokens.length)) ?_
  refine reads_choose ?_ ?_
  · refine (reads_named hg).bind fun test htest => (reads_block hg).bind fun body hbody => ?_
    exact (reads_blockAfter hg "else").bind fun orelse horelse =>
      reads_pure ⟨⟨rfl, ⟨htest, trivial⟩, hbody, horelse, trivial⟩, trivial⟩
  refine reads_choose (reads_single (reads_loop hg false)) ?_
  refine reads_choose (reads_single (reads_withBlock hg false)) ?_
  refine reads_choose (reads_single (reads_tryBlock hg)) ?_
  refine reads_choose ?_ (reads_simpleLine hg)
  refine reads_choose (reads_single (reads_loop hg true)) ?_
  exact reads_bind fun _ => reads_single (reads_withBlock hg true)

omit hg in
/-- **All layers of grammar read what they should.** -/
theorem layer_isProper (n : Nat) : (layer n).IsProper := by
  induction n with
  | zero => exact ⟨reads_stop, reads_stop, reads_stop, reads_stop, reads_stop⟩
  | succ n ih =>
    exact ⟨reads_expressionRule ih, reads_factorRule ih, reads_inversionRule ih,
      reads_primaryRule ih, reads_statementRule ih⟩

end Grammar

/-- **The statements of a text** are statements. -/
theorem parse_are {s : String} {ns : List Node} (h : parse s = .ok ns) : AllAre .statement ns := by
  unfold parse at h
  split at h
  · cases h
  · dsimp only at h
    split at h
    · next body rest hread =>
      obtain rfl := Except.ok.inj h
      have hall : Reads (AllAre .statement) (readAll (.layer ((Token.ofText s).length + 1))) := by
        unfold readAll
        refine (Grammar.reads_blockBody (Grammar.layer_isProper _)).bind fun body hbody =>
          reads_bind fun t => ?_
        split
        · exact reads_pure hbody
        · exact reads_stop
      exact hall _ _ _ hread
    · cases h

end Narrowing.Code
