import FtpServer.Library.Decimal
import FtpServer.Proofs.Descriptors
import FtpServer.Proofs.Replies
import FtpServer.Proofs.Trim

/-!
# What REST answers

`dorest` looks at `errno` behind `strtoll`, but does not clear it in front of it. So an offset that
could be used is refused after any earlier command that left `ERANGE` there, which a `REST` with a
number that is out of range does; every other argument is answered as it should be
(`dorest_answers`).

* `Denotes` has the texts that stand for an integer, with white space on both sides, and `clamped`
  is what `strtoll` makes of one that does not fit.
* `AnswersRest` is what a `REST` should do by its number: set the offset and say so, or refuse.
* `dorest_wp` says what it does, with the `errno` that it finds.
-/

namespace FtpServer

open CString Effect Effect.Proc

/-! ### Integers as clients write them -/

/-- The text is a decimal integer, with white space around it. -/
inductive Denotes : Bytes → ℤ → Prop
  | intro {lead sign digits trail : Bytes} (hlead : ∀ c ∈ lead, isspace c = true)
      (hsign : sign = [] ∨ sign = [43] ∨ sign = [minus]) (hne : digits ≠ [])
      (hdigits : ∀ c ∈ digits, isdigit c = true) (htrail : ∀ c ∈ trail, isspace c = true) :
      Denotes (lead ++ (sign ++ digits ++ trail))
        (if sign = [minus] then -(Decimal.value digits : ℤ) else Decimal.value digits)

/-- A digit is neither blank nor sign. -/
theorem isdigit_not_space {c : UInt8} (h : isdigit c = true) :
    isspace c = false ∧ isblank c = false ∧ c ≠ nul ∧ c ≠ minus ∧ c ≠ 43 := by
  simp only [isdigit, Bool.and_eq_true, decide_eq_true_eq] at h
  simp only [isspace, isblank, space, tab, nul, minus, Bool.or_eq_false_iff, Bool.and_eq_false_iff,
    decide_eq_false_iff_not]
  grind

/-- What `strtoll` makes of an integer. -/
def clamped (n : ℤ) : ℤ × Bool :=
  if n > llongMax then (llongMax, true) else if n < llongMin then (llongMin, true) else (n, false)

/-- `strtoll` reads a sign and digits, behind any white space. -/
theorem strtoll_numeral {lead sign digits : Bytes} (hlead : ∀ c ∈ lead, isspace c = true)
    (hsign : sign = [] ∨ sign = [43] ∨ sign = [minus]) (hne : digits ≠ [])
    (hdigits : ∀ c ∈ digits, isdigit c = true) :
    strtoll (lead ++ (sign ++ digits)) =
      clamped (if sign = [minus] then -(Decimal.value digits : ℤ) else Decimal.value digits) := by
  obtain ⟨d, digits', rfl⟩ := List.exists_cons_of_ne_nil hne
  obtain ⟨hspace, -, -, hminus, hplus⟩ := isdigit_not_space (hdigits d List.mem_cons_self)
  have htake : (d :: digits').takeWhile isdigit = d :: digits' :=
    List.takeWhile_eq_self_iff.2 hdigits
  rw [strtoll, List.dropWhile_append_of_pos hlead]
  rcases hsign with rfl | rfl | rfl
  · have hdrop : ([] ++ d :: digits').dropWhile isspace = d :: digits' :=
      List.dropWhile_cons_of_neg (by simp [hspace])
    simp only [hdrop, List.head?_cons, Option.some.injEq, hminus, hplus, decide_false,
      Bool.or_self, Bool.false_eq_true, if_false, htake]
    rfl
  · have hdrop : ([43] ++ d :: digits').dropWhile isspace = 43 :: d :: digits' :=
      List.dropWhile_cons_of_neg (by decide)
    have hneg : (43 : UInt8) ≠ minus := by decide
    have hneg' : ([43] : Bytes) ≠ [minus] := by decide
    simp only [hdrop, List.head?_cons, Option.some.injEq, hneg, decide_false, Bool.false_or,
      decide_true, if_true, List.tail_cons, htake, if_neg hneg', if_false]
    rfl
  · have hdrop : ([minus] ++ d :: digits').dropWhile isspace = minus :: d :: digits' :=
      List.dropWhile_cons_of_neg (by decide)
    simp only [hdrop, List.head?_cons, decide_true, Bool.true_or, if_true, List.tail_cons, htake]
    rfl

/-- The text of an integer, as `trim_whitespace` leaves it and `strtoll` reads it. -/
theorem Denotes.trimmed {s : Bytes} {n : ℤ} (h : Denotes s n) :
    ∃ lead text trail, s = lead ++ (text ++ trail) ∧ (∀ c ∈ lead, isblank c = true) ∧
      (∀ c ∈ text.head?, isblank c = false) ∧ (∀ c ∈ text.getLast?, isspace c = false) ∧
      text ≠ [] ∧ (∀ c ∈ trail, isspace c = true) ∧ nul ∉ text ∧ strtoll text = clamped n := by
  obtain ⟨hlead, hsign, hne, hdigits, htrail⟩ := h
  rename_i lead sign digits trail
  have hspaces : ∀ c ∈ lead.dropWhile isblank, isspace c = true := fun c hc ↦
    hlead c ((List.dropWhile_sublist _).subset hc)
  refine ⟨lead.takeWhile isblank, lead.dropWhile isblank ++ (sign ++ digits), trail, ?_,
    fun c hc ↦ List.mem_takeWhile_imp hc, ?_, ?_, by simp [hne], htrail, ?_,
    strtoll_numeral hspaces hsign hne hdigits⟩
  · rw [List.append_assoc (lead.dropWhile _), ← List.append_assoc (lead.takeWhile _),
      List.takeWhile_append_dropWhile]
  · rcases hdrop : lead.dropWhile isblank with - | ⟨c, rest⟩
    · obtain ⟨d, digits', rfl⟩ := List.exists_cons_of_ne_nil hne
      have hd := (isdigit_not_space (hdigits d List.mem_cons_self)).2.1
      rcases hsign with rfl | rfl | rfl
      · simpa using hd
      · simp; decide
      · simp; decide
    · have hc := List.head_dropWhile_not isblank (l := lead) (by simp [hdrop])
      simpa [hdrop] using hc
  · obtain ⟨front, d, hsplit⟩ : ∃ front d, digits = front ++ [d] :=
      ⟨_, _, (List.dropLast_append_getLast hne).symm⟩
    have hd := (isdigit_not_space (hdigits d (by simp [hsplit]))).1
    rw [hsplit, ← List.append_assoc, ← List.append_assoc, List.getLast?_concat]
    simpa using hd
  · intro hmem
    rcases List.mem_append.1 hmem with hmem | hmem
    · exact absurd (hspaces _ hmem) (by decide)
    rcases List.mem_append.1 hmem with hmem | hmem
    · rcases hsign with rfl | rfl | rfl <;> revert hmem <;> decide
    · exact (isdigit_not_space (hdigits _ hmem)).2.2.1 rfl

/-! ### `dorest` -/

/-- The offset may be restarted at. -/
def Usable (n : ℤ) : Prop := 0 ≤ n ∧ n < llongMax

instance (n : ℤ) : Decidable (Usable n) := inferInstanceAs (Decidable (_ ∧ _))

/-- The reply to an offset. -/
def restarting (n : ℤ) : Bytes := ofString "350 Restarting transfer at " ++ fmtInt n ++ [cr, lf]

/-- The reply to anything else. -/
def seekRefused : List Bytes :=
  [ofString "501-Invalid seek argument\r\n", ofString "501 Seek reset to 0\r\n"]

/-- From `w` to `w'`, a REST with the number `n` did what it should. -/
structure AnswersRest (n : ℤ) (w w' : World) : Prop where
  replies : ∃ run, w'.trace = w.trace ++ run ∧
    repliesOf run = if Usable n then [restarting n] else seekRefused
  restartPos : w'.st.session.restartPos = if Usable n then n else 0

variable {e : Env} {w w' : World} {n : ℤ}

/-- What `dorest` does with the number `n`, if it takes it and if it does not. -/
structure RestEnds (taken : Prop) [Decidable taken] (n : ℤ) (ret : FtpRet) (w w' : World) :
    Prop where
  ret : ret = .success
  replies : ∃ run, w'.trace = w.trace ++ run ∧
    repliesOf run = if taken then [restarting n] else seekRefused
  restartPos : w'.st.session.restartPos = if taken then n else 0

/-- A number has as many digits as its size allows, and a sign. -/
theorem length_fmtInt_le {k : ℕ} (hk : 0 < k) {i : ℤ} (h : i.natAbs < 10 ^ k) :
    (fmtInt i).length ≤ k + 1 := by
  have hrepr := Decimal.length_repr_le hk h
  rw [fmtInt]
  split_ifs
  · rw [List.length_cons]
    omega
  · omega

/-- The reply to `REST` fits. -/
theorem length_restarting_lt (h : Usable n) : (restarting n).length < responseBufferSize := by
  have hnat : n.natAbs < 10 ^ 19 := by
    obtain ⟨hpos, hlt⟩ := h
    rw [llongMax] at hlt
    omega
  have hlen := length_fmtInt_le (by decide) hnat
  have htext : (ofString "350 Restarting transfer at ").length = 27 := by decide
  rw [restarting, List.length_append, List.length_append, htext, responseBufferSize]
  simp only [List.length_cons, List.length_nil]
  omega

/-- What is left of the argument still denotes the number. -/
theorem trimArgument_wp (h : Denotes w.st.session.command.argument n) :
    wp e trimArgument (fun strpos w' ↦ strtoll strpos = clamped n ∧ w'.trace = w.trace ∧
      w'.st.errno = w.st.errno) (fun _ _ ↦ True) w := by
  obtain ⟨lead, text, trail, hs, hlead, hfirst, hlast, hne, htrail, hnul, hvalue⟩ := h.trimmed
  rw [trimArgument, wp_bind, wp_getSession]
  dsimp only
  split
  · rename_i k harg
    split
    · exact trivial
    rename_i line j htrim
    obtain ⟨post, hpost⟩ := exists_eq_cstr_append (nul_mem_of_trimWhitespace htrim)
    have hcstr : cstr (w.st.session.command.line.drop k) = lead ++ (text ++ trail) := by
      rw [← hs, FtpCommand.argument, harg]
    have hk : k = (w.st.session.command.line.take k).length := by
      have hlt : k < w.st.session.command.line.length := by
        by_contra hle
        rw [List.drop_eq_nil_of_le (by omega)] at hpost
        simp at hpost
      rw [List.length_take]
      omega
    have hbuf : w.st.session.command.line = w.st.session.command.line.take k ++
        (lead ++ (text ++ (trail ++ nul :: post))) := by
      conv_lhs => rw [← List.take_append_drop k w.st.session.command.line, hpost, hcstr]
      simp [nul]
    have hspec := trimWhitespace_text hlead hfirst hlast hne htrail hnul
      (w.st.session.command.line.take k) post
    rw [← hbuf, ← hk, htrim, Option.some.injEq, Prod.mk.injEq] at hspec
    obtain ⟨rfl, rfl⟩ := hspec
    refine ⟨?_, rfl, rfl⟩
    have hdrop : ∀ s : Bytes, (w.st.session.command.line.take k ++ (lead ++ s)).drop
        (k + lead.length) = s := by
      intro s
      rw [← List.append_assoc]
      exact List.drop_left' (by rw [List.length_append, ← hk])
    rw [hdrop, cstr_append_nul hnul]
    exact hvalue
  · exact trivial

/-- **`dorest`, of an integer.** -/
theorem dorest_wp (h : Denotes w.st.session.command.argument n) :
    wp e dorest (RestEnds (Usable n ∧ w.st.errno ≠ some .erange) n · w) (fun _ _ ↦ True) w := by
  -- both answers are looked at once, and the cases below lead to one or the other
  have hrefuse : ∀ w₁ : World, w₁.trace = w.trace → ¬(Usable n ∧ w.st.errno ≠ some .erange) →
      wp e (do
        replyMsg "501-Invalid seek argument\r\n"
        replyMsg "501 Seek reset to 0\r\n"
        setRestartPos 0
        return FtpRet.success)
      (RestEnds (Usable n ∧ w.st.errno ≠ some .erange) n · w) (fun _ _ ↦ True) w₁ := by
    intro w₁ htrace hnot
    rw [wp_bind]
    refine wp_mono (replyMsg_wp _) (fun _ w₂ h₂ ↦ ?_) fun _ _ _ ↦ trivial
    rw [wp_bind]
    refine wp_mono (replyMsg_wp _) (fun _ w₃ h₃ ↦ ?_) fun _ _ _ ↦ trivial
    obtain ⟨run, ht, hr⟩ := (h₂.trans h₃).grown
    exact ⟨rfl, ⟨run, by rw [← htrace]; exact ht, by rw [if_neg hnot, hr]; rfl⟩,
      by rw [if_neg hnot]⟩
  have htake : ∀ w₁ : World, w₁.trace = w.trace → Usable n ∧ w.st.errno ≠ some .erange →
      wp e (do
        replyFormat (ofString "350 Restarting transfer at " ++ fmtInt n ++ [cr, lf])
        setRestartPos n
        observe (.rested n)
        return FtpRet.success)
      (RestEnds (Usable n ∧ w.st.errno ≠ some .erange) n · w) (fun _ _ ↦ True) w₁ := by
    intro w₁ htrace hyes
    rw [wp_bind]
    refine wp_mono (replyFormat_wp (length_restarting_lt hyes.1)) (fun _ w₂ h₂ ↦ ?_)
      fun _ _ _ ↦ trivial
    obtain ⟨run, ht, hr⟩ := h₂.grown
    refine ⟨rfl, ⟨run ++ [.note (.observe (.rested n))], ?_, ?_⟩, by rw [if_pos hyes]⟩
    · rw [← List.append_assoc, ← htrace, ← ht]
    · rw [if_pos hyes, repliesOf, List.filterMap_append, ← repliesOf, hr]
      rfl
  rw [dorest, wp_bind]
  refine wp_mono (trimArgument_wp h) ?_ fun _ _ h ↦ h
  rintro strpos w₁ ⟨hvalue, htrace, herrno⟩
  rw [hvalue, clamped]
  -- a number that does not fit sets `ERANGE`, whatever was there before
  by_cases hmax : n > llongMax
  · have hnot : ¬(Usable n ∧ w.st.errno ≠ some .erange) := fun h ↦ by
      have := h.1.2
      omega
    simp only [if_pos hmax, if_true]
    rw [wp_bind, wp_setErrno, wp_bind, wp_errnoIs, if_pos (by simp)]
    exact hrefuse _ htrace hnot
  by_cases hmin : n < llongMin
  · have hnot : ¬(Usable n ∧ w.st.errno ≠ some .erange) := fun h ↦ by
      have := h.1.1
      simp only [llongMin] at hmin
      omega
    simp only [if_neg hmax, if_pos hmin, if_true]
    rw [wp_bind, wp_setErrno, wp_bind, wp_errnoIs, if_pos (by simp)]
    exact hrefuse _ htrace hnot
  · simp only [if_neg hmax, if_neg hmin, Bool.false_eq_true, if_false]
    rw [wp_bind, wp_errnoIs, herrno]
    -- one that fits leaves `errno` as it was found
    by_cases htaken : Usable n ∧ w.st.errno ≠ some .erange
    · obtain ⟨⟨hpos, hlt⟩, hclear⟩ := htaken
      rw [if_neg (by simp [hclear]; omega)]
      exact htake _ htrace ⟨⟨hpos, hlt⟩, hclear⟩
    · have hcond : n < 0 ∨ n = llongMax ∨ w.st.errno = some .erange := by
        by_contra hno
        obtain ⟨hpos, hne, hclear⟩ := by simpa only [not_or] using hno
        exact htaken ⟨⟨by omega, by omega⟩, hclear⟩
      rw [if_pos (by simpa [or_assoc] using hcond)]
      exact hrefuse _ htrace htaken

/-- **What a REST with an integer is answered** depends on the earlier commands exactly if they left
`ERANGE` behind and the offset could be used. -/
theorem dorest_answers (e : Env) (w : World) {n : ℤ} {ret : FtpRet} {w' : World}
    (hdenotes : Denotes w.st.session.command.argument n) (hrun : dorest e w = (.ret ret, w')) :
    ret = .success ∧ (AnswersRest n w w' ↔ (Usable n → w.st.errno ≠ some .erange)) := by
  obtain ⟨hret, ⟨run, ht, hr⟩, hpos⟩ := wp_ret (dorest_wp hdenotes) hrun
  refine ⟨hret, fun h husable herrno ↦ ?_, fun h ↦ ?_⟩
  · obtain ⟨run', ht', hr'⟩ := h.replies
    obtain rfl : run = run' := List.append_cancel_left (ht.symm.trans ht')
    rw [hr, if_neg fun h ↦ h.2 herrno, if_pos husable] at hr'
    exact absurd (congrArg List.length hr') (by simp [seekRefused])
  · have hiff : (Usable n ∧ w.st.errno ≠ some .erange) ↔ Usable n := and_iff_left_of_imp h
    simp only [hiff] at hr hpos
    exact ⟨⟨run, ht, hr⟩, hpos⟩

/-- As a numeral. -/
theorem denotes_five : Denotes (ofString "5") 5 :=
  @Denotes.intro [] [] [53] [] (by decide +kernel) (.inl rfl) (by decide +kernel)
    (by decide +kernel) (by decide +kernel)

/-- In a fresh session, 5 is taken. -/
theorem dorest_answers_five :
    let w := World.start (sessionWith (ofString "REST") (ofString "5"))
    FtpRet.success = .success ∧ (AnswersRest 5 w (dorest (clientEnv []) w).2 ↔
      (Usable 5 → w.st.errno ≠ some .erange)) :=
  dorest_answers (clientEnv []) (World.start (sessionWith (ofString "REST") (ofString "5")))
    denotes_five (run_eq (by decide +kernel))

/-- A session that was given this offset, and is given 5 next. -/
def restFiveAfter (argument : Bytes) : World :=
  let w := (dorest (clientEnv []) (World.start (sessionWith (ofString "REST") argument))).2
  { w with st := { w.st with session := { w.st.session with
    command := (sessionWith (ofString "REST") (ofString "5")).session.command } } }

/-- A client that sends these arguments to `REST`. -/
def restClient (arguments : List String) : Env :=
  clientEnv [ofString "USER anonymous\r\nPASS x\r\n",
    arguments.flatMap fun argument ↦ ofString ("REST " ++ argument ++ "\r\n")]

/-- What that client is answered from the first of these commands on. -/
def restClientReplies (arguments : List String) : List Bytes :=
  (repliesOf (ftpMain { loadDefaults with anonRootDir := some (ofString "/srv") } 4 5
    (restClient arguments) (World.start (Process.initial 1))).2.trace).drop 3

/-- Behind a number that is out of range, 5 is refused; by itself, and behind another number, it is
taken. -/
theorem dorest_refuses_five :
    Usable 5 ∧ Denotes (restFiveAfter (ofString "99999999999999999999")).st.session.command.argument
        5 ∧
      (dorest (clientEnv []) (restFiveAfter (ofString "99999999999999999999"))).1 = .ret .success ∧
      ¬AnswersRest 5 (restFiveAfter (ofString "99999999999999999999"))
        (dorest (clientEnv []) (restFiveAfter (ofString "99999999999999999999"))).2 ∧
      restClientReplies ["5"] = [restarting 5, ofString "421 Goodbye!\r\n"] ∧
      restClientReplies ["7", "5"] = [restarting 7, restarting 5, ofString "421 Goodbye!\r\n"] ∧
      restClientReplies ["99999999999999999999", "5"] =
        seekRefused ++ seekRefused ++ [ofString "421 Goodbye!\r\n"] := by
  refine ⟨by decide, denotes_five, by decide +kernel, fun h ↦ ?_, by decide +kernel⟩
  exact absurd h.restartPos (by decide +kernel)

end FtpServer
