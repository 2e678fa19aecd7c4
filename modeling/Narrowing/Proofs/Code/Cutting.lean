import Narrowing.Proofs.Code.FirstLine
/-!
# Cutting comes to an end

Whatever is read at the head of a text is not empty, so each step of the cutting leaves less of
the text, or begins the line whose margin it has just measured (`Cutting.step_size`). The number
of steps that a text is given is therefore never used up: what comes out is what the steps bring
until one of them is the last (`Cutting.Yields`), and the number of steps does not matter for it.
-/

namespace Narrowing.Code.Token

variable {cs rest : List Char}

/-! ## What is read is not empty -/

theorem digitRun_length (base : Nat) (cs : List Char) :
    (digitRun base cs).1.length + (digitRun base cs).2.length ≤ cs.length := by
  fun_induction digitRun base cs with
  | case1 => simp
  | case2 c cs _ run rest hrun ih =>
    rw [hrun] at ih
    simp only [List.length_cons] at ih ⊢
    omega
  | case3 => simp
  | case4 c cs _ _ run rest hrun ih =>
    rw [hrun] at ih
    simp only [List.length_cons] at ih ⊢
    omega
  | case5 => simp

theorem plainRun_length (cs : List Char) :
    (plainRun cs).1.length + (plainRun cs).2.length ≤ cs.length := by
  unfold plainRun
  split
  · simp
  · exact digitRun_length 10 cs

theorem places_length (cs : List Char) :
    (places cs).2.1.length + (places cs).2.2.length ≤ cs.length := by
  unfold places
  split
  · exact Nat.le_succ_of_le (plainRun_length _)
  · simp

theorem direction_length (cs : List Char) : (direction cs).2.length ≤ cs.length := by
  unfold direction
  split <;> simp

theorem exponentRun_length (cs : List Char) : (exponentRun cs).2.length ≤ cs.length := by
  cases cs with
  | nil => simp [exponentRun]
  | cons e after =>
    have hdirection := direction_length after
    have hdigits := plainRun_length (direction after).2
    simp only [exponentRun, List.length_cons]
    split
    · split
      · simp
      · dsimp only
        omega
    · simp

theorem decimalNumber_length {n : Constant} (h : decimalNumber cs = some (n, rest)) :
    rest.length < cs.length := by
  have hwhole := plainRun_length cs
  have hplaces := places_length (plainRun cs).2
  have hexponent := exponentRun_length (places (plainRun cs).2).2.2
  simp only [decimalNumber] at h
  split at h
  · cases h
  · next hdigits =>
    replace hdigits : ¬ ((plainRun cs).1.isEmpty && (places (plainRun cs).2).2.1.isEmpty) = true :=
      hdigits
    rw [Bool.and_eq_true, List.isEmpty_iff_length_eq_zero, List.isEmpty_iff_length_eq_zero]
      at hdigits
    have hrest : rest.length ≤ (exponentRun (places (plainRun cs).2).2.2).2.length := by
      split at h
      · cases h
        simp
      · obtain ⟨m, -, hm⟩ := Option.map_eq_some_iff.1 h
        cases hm
        exact Nat.le_refl _
    omega

theorem basedNumber_length {base : Nat} {n : Constant} (h : basedNumber base cs = some (n, rest)) :
    rest.length ≤ cs.length := by
  have hskip : (skipBar cs).length ≤ cs.length := by
    unfold skipBar
    split <;> simp
  have hdigits := digitRun_length base (skipBar cs)
  simp only [basedNumber] at h
  split at h
  · cases h
  split at h
  · cases h
  · cases h
    omega

theorem readNumber_length {n : Constant} (h : readNumber cs = some (n, rest)) :
    rest.length < cs.length := by
  obtain ⟨h, -⟩ := Option.filter_eq_some_iff.1 h
  unfold numberAt at h
  split at h
  · have hbased : ∀ {base : Nat} {cs : List Char}, basedNumber base cs = some (n, rest) →
        rest.length < cs.length + 2 := fun h => by have := basedNumber_length h; omega
    split at h
    · exact hbased h
    split at h
    · exact hbased h
    split at h
    · exact hbased h
    · exact decimalNumber_length h
  · exact decimalNumber_length h

theorem readSign_length {s : String} (h : readSign cs = some (s, rest)) :
    rest.length < cs.length := by
  have hall : ∀ s ∈ signs, 0 < s.length := by decide
  obtain ⟨t, hfound, ht⟩ := Option.map_eq_some_iff.1 h
  cases ht
  have hsign := hall s (List.mem_of_find?_eq_some hfound)
  have hprefix : s.toList.isPrefixOf cs = true :=
    List.find?_some (p := fun s : String => s.toList.isPrefixOf cs) hfound
  have hlength := (List.isPrefixOf_iff_prefix.1 hprefix).length_le
  rw [String.length_toList] at hlength
  rw [List.length_drop]
  omega

theorem literalBody_length {quote : Char} {triple : Bool} {body : List Char}
    (h : literalBody quote triple cs = some (body, rest)) : rest.length < cs.length := by
  fun_induction literalBody quote triple cs generalizing body with
  | case1 => cases h
  | case2 c cs ih =>
    obtain ⟨read, hread, hbody⟩ := Option.map_eq_some_iff.1 h
    cases hbody
    exact Nat.lt_succ_of_lt (Nat.lt_succ_of_lt (ih hread))
  | case3 c cs _ after hafter =>
    cases h
    simp only [afterQuote, Option.ite_none_right_eq_some] at hafter
    obtain ⟨-, hrest⟩ := hafter
    cases hrest
    simp only [List.length_drop, List.length_replicate, List.length_cons]
    split <;> omega
  | case4 => cases h
  | case5 c cs _ _ _ ih =>
    obtain ⟨read, hread, hbody⟩ := Option.map_eq_some_iff.1 h
    cases hbody
    exact Nat.lt_succ_of_lt (ih hread)

theorem quotedBody_length {body : List Char} (h : quotedBody cs = some (body, rest)) :
    rest.length < cs.length := by
  cases cs with
  | nil => cases h
  | cons q cs =>
    simp only [quotedBody] at h
    split at h
    · have hbody := literalBody_length h
      rw [List.length_drop] at hbody
      rw [List.length_cons]
      omega
    · exact Nat.lt_succ_of_lt (literalBody_length h)

theorem span_length (p : Char → Bool) (cs : List Char) : (cs.span p).2.length ≤ cs.length := by
  rw [List.span_eq_takeWhile_dropWhile]
  exact (List.dropWhile_sublist p).length_le

theorem literalHead?_length {marks quoted : List Char}
    (h : literalHead? cs = some (marks, quoted)) : quoted.length ≤ cs.length := by
  have hspan := span_length staysInWord cs
  simp only [literalHead?] at h
  split at h
  · cases h
    exact hspan
  · cases h

theorem readLiteral_length {marks : List Char} {t : Token}
    (h : readLiteral marks cs = some (t, rest)) : rest.length < cs.length := by
  obtain ⟨⟨body, after⟩, hbody, ht⟩ := Option.bind_eq_some_iff.1 h
  obtain ⟨u, -, hu⟩ := Option.map_eq_some_iff.1 ht
  cases hu
  exact quotedBody_length hbody

theorem readName_length {s : String} (hword : cs.head?.any startsWord = true)
    (h : readName cs = some (s, rest)) : rest.length < cs.length := by
  cases cs with
  | nil => cases hword
  | cons c cs =>
    have hstays : staysInWord c = true := by
      rw [staysInWord, Bool.or_eq_true]
      exact .inl hword
    simp only [readName, List.span_eq_takeWhile_dropWhile, List.dropWhile_cons, hstays, if_true,
      Option.ite_none_right_eq_some] at h
    obtain ⟨-, hrest⟩ := h
    cases hrest
    exact Nat.lt_succ_of_le (List.dropWhile_sublist _).length_le

/-- **What is read has a character at least.** -/
theorem readItem_length {t : Token} (h : readItem cs = some (t, rest)) :
    rest.length < cs.length := by
  unfold readItem at h
  split at h
  · next marks quoted hhead =>
    exact Nat.lt_of_lt_of_le (readLiteral_length h) (literalHead?_length hhead)
  · unfold readPlain at h
    split at h
    · next hword =>
      obtain ⟨read, hread, hs⟩ := Option.map_eq_some_iff.1 h
      cases hs
      exact readName_length hword hread
    split at h
    · obtain ⟨read, hread, hn⟩ := Option.map_eq_some_iff.1 h
      cases hn
      exact readNumber_length hread
    · obtain ⟨read, hread, hs⟩ := Option.map_eq_some_iff.1 h
      cases hs
      exact readSign_length hread

/-! ## Steps -/

theorem measure_length (settled : Nat) (m : Margin) (cs : List Char) :
    (measure settled m cs).2.length ≤ cs.length := by
  fun_induction measure settled m cs with
  | case1 settled m cs ih => exact Nat.le_succ_of_le ih
  | case2 settled m cs ih => exact Nat.le_succ_of_le ih
  | case3 settled m cs ih => exact Nat.le_succ_of_le ih
  | case4 settled m c cs ih => exact Nat.le_succ_of_le (Nat.le_succ_of_le ih)
  | case5 => exact Nat.le_refl _

theorem dropComment_length (cs : List Char) : (dropComment cs).length ≤ cs.length := by
  unfold dropComment
  split
  · exact (List.dropWhile_sublist _).length_le
  · exact Nat.le_refl _

namespace Cutting

variable {c d : Cutting} {ts us : List Token}

theorem length_ahead (c : Cutting) : c.ahead.length ≤ c.rest.length :=
  Nat.le_trans (dropComment_length _) (List.dropWhile_sublist _).length_le

/-- What is left to do: the characters that are left count twice, the margin of the line once. -/
def size (c : Cutting) : Nat := 2 * c.rest.length + if c.lineStart then 1 else 0

theorem lineHead_size (hline : c.lineStart = true) (h : c.lineHead = (ts, some d)) :
    d.size < c.size := by
  have hrest := measure_length 0 ⟨0, 0⟩ c.rest
  have hcomment := dropComment_length (measure 0 ⟨0, 0⟩ c.rest).2
  simp only [lineHead] at h
  generalize dropComment (measure 0 ⟨0, 0⟩ c.rest).2 = content at h hcomment
  unfold lineFrom at h
  split at h
  · cases h
  · cases h
  · cases h
    rw [List.length_cons] at hcomment
    simp only [size, hline, if_true]
    omega
  · split at h
    · cases h
    · cases h
      simp only [size, hline, if_true, Bool.false_eq_true, if_false]
      omega

theorem behind_rest {t : Token} {rest : List Char} (h : c.behind rest t = (ts, some d)) :
    d.rest = rest := by
  unfold behind at h
  split at h
  · split at h <;> cases h
    rfl
  · cases h
    rfl

theorem item_length (h : c.item = (ts, some d)) : d.rest.length < c.rest.length := by
  refine Nat.lt_of_lt_of_le ?_ c.length_ahead
  unfold item at h
  generalize c.ahead = content at h
  unfold itemFrom at h
  split at h
  · cases h
  · split at h
    · cases h
      exact Nat.lt_succ_self _
    split at h
    · cases h
    · cases h
      exact Nat.lt_succ_self _
  · cases h
    exact Nat.lt_succ_of_lt (Nat.lt_succ_self _)
  · cases h
  · split at h
    · next t rest hread =>
      rw [behind_rest h]
      exact readItem_length hread
    · cases h

theorem item_size (hline : c.lineStart = false) (h : c.item = (ts, some d)) :
    d.size < c.size := by
  -- one character less makes up for the head of a line that may follow
  have hlength := item_length h
  have hflag : (if d.lineStart then 1 else 0) ≤ 1 := by split <;> decide
  simp only [size, hline, Bool.false_eq_true, if_false]
  omega

/-- **Each step leaves less to do.** -/
theorem step_size (h : c.step = (ts, some d)) : d.size < c.size := by
  unfold step at h
  split at h
  · next hline => exact lineHead_size hline h
  · next hline => exact item_size (Bool.eq_false_iff.2 hline) h

/-! ## Whole runs -/

/-- **What a cutting yields**: the tokens of its steps up to the last one. -/
inductive Yields : Cutting → List Token → Prop
  | last {c : Cutting} {ts : List Token} : c.step = (ts, none) → Yields c ts
  | goesOn {c d : Cutting} {ts us : List Token} :
      c.step = (ts, some d) → Yields d us → Yields c (ts ++ us)

/-- A run that has steps enough yields what the cutting yields. -/
theorem yields_run {steps : Nat} (h : c.size < steps) : c.Yields (c.run steps) := by
  induction steps generalizing c with
  | zero => exact absurd h (Nat.not_lt_zero _)
  | succ steps ih =>
    rw [run]
    cases hstep : c.step with
    | mk ts next =>
      cases next with
      | none => exact .last hstep
      | some d =>
        have hless : d.size < steps := Nat.lt_of_lt_of_le (step_size hstep) (Nat.le_of_lt_succ h)
        exact .goesOn hstep (ih hless)

theorem Yields.unique (h : c.Yields ts) (h' : c.Yields us) : ts = us := by
  induction h generalizing us with
  | last hstep =>
    cases h' with
    | last hstep' => exact congrArg Prod.fst (hstep.symm.trans hstep')
    | goesOn hstep' _ => cases hstep.symm.trans hstep'
  | goesOn hstep _ ih =>
    cases h' with
    | last hstep' => cases hstep.symm.trans hstep'
    | goesOn hstep' hrest =>
      cases hstep.symm.trans hstep'
      rw [ih hrest]

/-- **The tokens of a text are what its cutting yields.** -/
theorem yields_ofText (s : String) : (start s).Yields (ofText s) :=
  yields_run (by simp [size, start])

end Cutting

end Narrowing.Code.Token
