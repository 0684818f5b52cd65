import FtpServer.Proofs.Calls
import FtpServer.Proofs.CommandLine

/-!
# Commands as clients write them

A client writes a command as a verb, white space, an argument and a line end. `parse_cmd` reads all
of that back, whatever is received behind the line (`parseCmd_roundTrip`).
-/

namespace FtpServer

open CString Effect Effect.Proc

/-! ### The text of a command -/

/-- No byte of a verb ends the verb or the line. -/
def IsVerb (verb : Bytes) : Prop := ∀ c ∈ verb, c ≠ space ∧ c ≠ cr ∧ c ≠ lf ∧ c ≠ nul

/-- The texts that stand for a verb and an argument, up to the line end. -/
inductive CommandText (verb : Bytes) : Bytes → Bytes → Prop
  | alone : CommandText verb [] verb
  | spaced (blanks argument : Bytes) (hblanks : ∀ c ∈ blanks, isspace c = true ∧ c ≠ lf)
      (hlf : lf ∉ argument) (hnul : nul ∉ argument)
      (hfirst : ∀ c ∈ argument.head?, isspace c = false) :
      CommandText verb argument (verb ++ space :: (blanks ++ argument))

/-- The line ends that are taken for one. -/
inductive LineEnd (text : Bytes) : Bytes → Prop
  | crlf : LineEnd text [cr, lf]
  | bare (hcr : text.getLast? ≠ some cr) : LineEnd text [lf]

/-- The scan for the argument stops at the terminator. -/
theorem isspace_nul : isspace nul = false := by decide

/-- A command line has neither a line end nor a NUL inside. -/
theorem CommandText.not_mem {verb argument text : Bytes} (hverb : IsVerb verb)
    (h : CommandText verb argument text) : lf ∉ text ∧ nul ∉ text := by
  have hlf : lf ∉ verb := fun hmem ↦ (hverb _ hmem).2.2.1 rfl
  have hnul : nul ∉ verb := fun hmem ↦ (hverb _ hmem).2.2.2 rfl
  rcases h with - | ⟨blanks, _, hblanks, hlf', hnul', -⟩
  · exact ⟨hlf, hnul⟩
  · have hblanks_nul : nul ∉ blanks := fun hmem ↦ by
      simpa [isspace_nul] using (hblanks _ hmem).1
    have hblanks_lf : lf ∉ blanks := fun hmem ↦ (hblanks _ hmem).2 rfl
    have hspace : lf ≠ space ∧ nul ≠ space := by decide
    simp only [List.mem_append, List.mem_cons, not_or]
    exact ⟨⟨hlf, hspace.1, hblanks_lf, hlf'⟩, hnul, hspace.2, hblanks_nul, hnul'⟩

/-- A text splits into the verb and the argument it stands for. -/
theorem CommandText.split {verb argument text : Bytes} (hverb : IsVerb verb)
    (h : CommandText verb argument text) :
    (text.takeWhile (· ≠ space), ((text.dropWhile (· ≠ space)).drop 1).dropWhile isspace) =
      (verb, argument) := by
  have hpos : ∀ c ∈ verb, decide (c ≠ space) = true := fun c hc ↦ decide_eq_true (hverb c hc).1
  rcases h with - | ⟨blanks, _, hblanks, -, -, hfirst⟩
  · rw [List.takeWhile_eq_self_iff.2 hpos, List.dropWhile_eq_nil_iff.2 hpos]
    rfl
  · have hargument : argument.dropWhile isspace = argument := by
      rcases argument with - | ⟨c, s⟩
      · rfl
      · exact List.dropWhile_cons_of_neg (by simpa using hfirst c rfl)
    rw [List.takeWhile_append_of_pos hpos, List.takeWhile_cons_of_neg (by simp), List.append_nil,
      List.dropWhile_append_of_pos hpos, List.dropWhile_cons_of_neg (by simp), List.drop_one,
      List.tail_cons, List.dropWhile_append_of_pos fun c hc ↦ (hblanks c hc).1, hargument]

/-! ### Reading it back -/

/-- The line in front of the LF is the text, but for a CR. -/
theorem LineEnd.split {text eol : Bytes} (h : LineEnd text eol) :
    ∃ l, text ++ eol = l ++ [lf] ∧ stripCr l = text ∧ (lf ∈ l → lf ∈ text) := by
  rcases h with - | hcr
  · refine ⟨text ++ [cr], by simp, by simp [stripCr], fun hmem ↦ ?_⟩
    simpa [cr, lf] using hmem
  · exact ⟨text, rfl, by rw [stripCr, if_neg hcr], id⟩

/-- **A command is read as it was written**: the verb, the argument, and the length of the line; the
argument is inside of the line, and what follows the line is as received. -/
theorem parseCmd_roundTrip (e : Env) (w : World) {verb argument text eol rest : Bytes}
    (hverb : IsVerb verb) (htext : CommandText verb argument text) (heol : LineEnd text eol)
    (hline : w.st.session.command.line = text ++ eol ++ rest) :
    ∃ w', parseCmd e w = (.ret .success, w') ∧
      cstr w'.st.session.command.line = verb ∧
      w'.st.session.command.argument = argument ∧
      w'.st.session.command.len = (text ++ eol).length ∧
      (∃ k < w'.st.session.command.len, w'.st.session.command.arg = .line k) ∧
      w'.st.session.command.line.drop w'.st.session.command.len = rest := by
  obtain ⟨hlf, hnul⟩ := htext.not_mem hverb
  obtain ⟨l, hl, hstrip, hmem⟩ := heol.split
  have hbuffer : w.st.session.command.line = l ++ lf :: rest := by
    rw [hline, hl, List.append_assoc, List.singleton_append]
  have hfind : w.st.session.command.line.findIdx? (· = lf) = some l.length := by
    rw [hbuffer]
    exact findIdx?_eq_length fun h ↦ hlf (hmem h)
  obtain ⟨buf, j, hparse, hends, hj, hcommand⟩ := parseLine_spec l rest
  have hsplit : splitCommand l = (verb, argument) := by
    rw [splitCommand, hstrip, cstr_of_not_mem hnul]
    exact htext.split hverb
  obtain ⟨hcmd, harg⟩ := Prod.mk.inj (hcommand.trans hsplit)
  rw [← hbuffer] at hparse
  obtain ⟨ret, w', hrun, rfl, hst⟩ : ∃ ret w', parseCmd e w = (.ret ret, w') ∧ ret = .success ∧
      w'.st.session.command = { w.st.session.command with
        line := buf, arg := .line j, len := l.length + 1 } := by
    refine exists_ret_of_wp ?_
    rw [parseCmd, wp_bind, wp_getSession]
    simp only [hfind, hparse]
    exact ⟨rfl, rfl⟩
  refine ⟨w', hrun, ?_⟩
  rw [hst, hl, List.length_append]
  exact ⟨hcmd, harg, rfl, ⟨j, Nat.lt_succ_of_le hj, rfl⟩, hends.behind⟩

/-- `CWD` with two blanks in front of its argument, ended by a LF, in front of another command. -/
theorem parseCmd_roundTrip_cwd :
    let w : World := { World.start (Process.initial 1) with
      st.session.command.line := ofString "CWD \t a b\nNOOP\r\n" }
    ∃ w', parseCmd (scriptedEnv (fun _ _ ↦ none) 0) w = (.ret .success, w') ∧
      cstr w'.st.session.command.line = ofString "CWD" ∧
      w'.st.session.command.argument = ofString "a b" ∧
      w'.st.session.command.len = (ofString "CWD \t a b" ++ [lf]).length ∧
      (∃ k < w'.st.session.command.len, w'.st.session.command.arg = .line k) ∧
      w'.st.session.command.line.drop w'.st.session.command.len = ofString "NOOP\r\n" :=
  parseCmd_roundTrip _ _ (by unfold IsVerb; decide +kernel)
    (.spaced (ofString "\t ") (ofString "a b") (by decide +kernel)
      (by decide +kernel) (by decide +kernel) (by decide +kernel))
    (.bare (by decide)) rfl

end FtpServer
