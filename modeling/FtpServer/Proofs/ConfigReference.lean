import FtpServer.Proofs.ConfigFile

/-!
# What a configuration file says

A reference for `parse_config`: lines `key = value`, comments and blank lines, and the value of an
option as its type has it. On texts without other white space than blanks and line feeds the parser
follows it (`parseConfig_reference`), as long as it may read the byte behind the end of the file.

* `lineEffect` is the reference for a line, `applyLines` for a text; `lastValue` and
  `reader_applyLines` say what it comes to: each option has the value of its last line.
* `intRead_strtol` is about numbers: `strtol` reads the literals of the reference and rejects the
  rest.
* `lineVerdict_eq` is the step from the verdict on a line to its effect, and `parseConfig_follows`
  the induction on the lines.
-/

namespace FtpServer

open CString Effect Effect.Proc Stripping

/-! ### The reference -/

/-- A number in this base. -/
def natLiteral (base : ℕ) (digits : Bytes) : Option ℕ :=
  if digits ≠ [] ∧ digits.all (digitValue · < base) then
    some (digits.foldl (fun n d ↦ base * n + digitValue d) 0)
  else none

/-- A number in decimal, octal behind a zero, or hexadecimal behind `0x`. -/
def unsignedLiteral : Bytes → Option ℕ
  | 48 :: x :: rest => if tolower x = 120 then natLiteral 16 rest else natLiteral 8
    (48 :: x :: rest)
  | 48 :: rest => natLiteral 8 (48 :: rest)
  | digits => natLiteral 10 digits

/-- Such a number with an optional sign. -/
def intLiteral (s : Bytes) : Option ℤ :=
  if s.head? = some minus then (unsignedLiteral s.tail).map fun n : ℕ ↦ -(n : ℤ)
  else if s.head? = some 43 then (unsignedLiteral s.tail).map fun n : ℕ ↦ (n : ℤ)
  else (unsignedLiteral s).map fun n : ℕ ↦ (n : ℤ)

/-- What the value of an option does, by its type. -/
def valueEffect (value : Bytes) : CfgVariable → Option (FullConfig → FullConfig)
  | .int set =>
    match intLiteral value with
    | some n => if intMin ≤ n ∧ n ≤ intMax then some (set n) else none
    | none => none
  | .bool set => some (set (value.head? ∈ [49, 121, 89, 116, 84].map some))
  | .str set => some (set (some value))

/-- What a line does, if it is acceptable. -/
def lineEffect (line : Bytes) : Option (FullConfig → FullConfig) :=
  let key := strip (line.takeWhile (· ≠ 61))
  let value := strip ((line.dropWhile (· ≠ 61)).tail)
  if line.all isblank ∨ line.head? = some 35 then some id
  else if 61 ∉ line ∨ value = [] then none
  else (coreConfigTable.find? fun o ↦ strcaseeq (ofString o.name) key).bind fun o ↦
    valueEffect value o.dest

/-- The line is acceptable. -/
def Acceptable (line : Bytes) : Prop := (lineEffect line).isSome

instance : DecidablePred Acceptable := fun _ ↦ inferInstanceAs (Decidable (_ = true))

/-- The configuration after these lines. -/
def applyLines (lines : List Bytes) (c : FullConfig) : FullConfig :=
  lines.foldl (fun c line ↦ (lineEffect line).getD id c) c

/-- The value of an option. -/
inductive OptionValue where
  | str (s : Option Bytes)
  | int (n : ℤ)
  | bool (b : Bool)
  deriving DecidableEq, Repr

/-- The options of a configuration. -/
def optionReaders : List (String × (FullConfig → OptionValue)) := [
  ("AllowAnonymous", fun c ↦ .bool c.allowAnon),
  ("AllowSymlinks", fun c ↦ .bool c.allowLinks),
  ("AnonRootDir", fun c ↦ .str c.anonRootDir),
  ("IdleTimeout", fun c ↦ .int c.idleTimeout),
  ("LocalPort", fun c ↦ .int c.port),
  ("LogFile", fun c ↦ .str c.logfile),
  ("LogToFile", fun c ↦ .bool c.logToFile),
  ("LogToSyslog", fun c ↦ .bool c.syslog),
  ("MaxClients", fun c ↦ .int c.maxClients),
  ("PasvPortEnd", fun c ↦ .int c.pasvPortEnd),
  ("PasvPortStart", fun c ↦ .int c.pasvPortStart),
  ("ServerName", fun c ↦ .str c.servername),
  ("TransferRate", fun c ↦ .int c.throttleRate)]

/-- What a value means for an option of this type. -/
def convert (value : Bytes) : CfgVariable → Option OptionValue
  | .int _ =>
    match intLiteral value with
    | some n => if intMin ≤ n ∧ n ≤ intMax then some (.int n) else none
    | none => none
  | .bool _ => some (.bool (value.head? ∈ [49, 121, 89, 116, 84].map some))
  | .str _ => some (.str (some value))

/-- The option that a line is for, and its value. -/
def lineOption (line : Bytes) : Option (String × OptionValue) :=
  if line.all isblank ∨ line.head? = some 35 then none
  else
    (coreConfigTable.find? fun o ↦ strcaseeq (ofString o.name)
      (strip (line.takeWhile (· ≠ 61)))).bind
      fun o ↦ (convert (strip ((line.dropWhile (· ≠ 61)).tail)) o.dest).map fun v ↦ (o.name, v)

/-- The value in the last line for an option. -/
def lastValue (name : String) (lines : List Bytes) : Option OptionValue :=
  (lines.filterMap fun line ↦
    (lineOption line).bind fun (n, v) ↦ if n = name then some v else none).getLast?

/-! ### Integers -/

/-- A number as `strtol` scans it, if it is all of the text. -/
def scanLiteral (base : ℕ) (t : Bytes) : Option ℕ :=
  let digits := t.takeWhile fun c ↦ digitValue c < base
  if digits = [] ∨ t.drop digits.length ≠ [] then none
  else some (digits.foldl (fun n d ↦ base * n + digitValue d) 0)

theorem drop_length_takeWhile (p : UInt8 → Bool) (t : Bytes) :
    t.drop (t.takeWhile p).length = t.dropWhile p := by
  calc t.drop (t.takeWhile p).length
      = (t.takeWhile p ++ t.dropWhile p).drop (t.takeWhile p).length := by
        rw [List.takeWhile_append_dropWhile]
    _ = t.dropWhile p := List.drop_left

theorem scanLiteral_eq (base : ℕ) (t : Bytes) : scanLiteral base t = natLiteral base t := by
  rw [scanLiteral, natLiteral, drop_length_takeWhile]
  by_cases hall : ∀ c ∈ t, decide (digitValue c < base) = true
  · rw [List.takeWhile_eq_self_iff.2 hall, List.dropWhile_eq_nil_iff.2 hall]
    by_cases ht : t = []
    · simp [ht]
    · rw [if_neg (by simpa using ht), if_pos ⟨ht, List.all_eq_true.2 hall⟩]
  · rw [if_pos (.inr fun h ↦ hall (List.dropWhile_eq_nil_iff.1 h)),
      if_neg fun h ↦ hall (List.all_eq_true.1 h.2)]

theorem eq_of_tolower {x l : UInt8} (h : tolower x = l) : x = l - 32 ∨ x = l := by
  rw [tolower] at h
  split_ifs at h
  · exact .inl (UInt8.eq_sub_iff_add_eq.2 h)
  · exact .inr h

/-- A zero in front of an `x` is all of an octal number. -/
theorem scanLiteral_zero {x : UInt8} (h : tolower x = 120) (rest : Bytes) :
    scanLiteral 8 (48 :: x :: rest) = none := by
  have hx : decide (digitValue x < 8) = false := by
    rcases eq_of_tolower h with rfl | rfl <;> decide
  have hzero : decide (digitValue 48 < 8) = true := by decide
  rw [scanLiteral_eq, natLiteral, if_neg]
  rintro ⟨-, hall⟩
  simp [hx] at hall

/-- The base is that of the digits that are there. -/
theorem unsignedLiteral_eq (t : Bytes) :
    unsignedLiteral t = scanLiteral (strtolBase t).1 (strtolBase t).2 := by
  rcases t with - | ⟨c, t⟩
  · exact (scanLiteral_eq 10 []).symm
  by_cases hc : c = 48
  · subst hc
    rcases t with - | ⟨x, - | ⟨d, rest⟩⟩
    · exact (scanLiteral_eq 8 [48]).symm
    · show (if tolower x = 120 then natLiteral 16 [] else natLiteral 8 [48, x]) =
        scanLiteral 8 [48, x]
      split_ifs with hx
      · exact (scanLiteral_zero hx []).symm
      · exact (scanLiteral_eq 8 [48, x]).symm
    · have hbase : strtolBase (48 :: x :: d :: rest) =
        if tolower x = 120 ∧ digitValue d < 16 then (16, d :: rest)
          else (8, 48 :: x :: d :: rest) := by
        simp [strtolBase]
      rw [hbase, unsignedLiteral]
      by_cases hx : tolower x = 120
      · rw [if_pos hx]
        by_cases hd : digitValue d < 16
        · rw [if_pos ⟨hx, hd⟩, scanLiteral_eq]
        · rw [if_neg fun h ↦ hd h.2, scanLiteral_zero hx, natLiteral, if_neg]
          rintro ⟨-, hall⟩
          simp [hd] at hall
      · rw [if_neg hx, if_neg fun h ↦ hx h.1, scanLiteral_eq]
  · have hbase : strtolBase (c :: t) = (10, c :: t) := by
      unfold strtolBase
      split <;> simp_all
    have hliteral : unsignedLiteral (c :: t) = natLiteral 10 (c :: t) := by
      unfold unsignedLiteral
      split <;> simp_all
    rw [hbase, hliteral, scanLiteral_eq]

/-- The sign, and the text behind it. -/
theorem intLiteral_eq (s : Bytes) :
    intLiteral s =
      let negative := s.head? = some minus
      (unsignedLiteral (if negative || s.head? = some 43 then s.tail else s)).map fun n : ℕ ↦
        if negative then -(n : ℤ) else n := by
  rw [intLiteral]
  by_cases hminus : s.head? = some minus
  · simp [hminus]
  · by_cases hplus : s.head? = some 43
    · have hne : (43 : UInt8) ≠ minus := by decide
      simp [hplus, hne]
    · simp [hminus, hplus]

theorem foldl_natCast (base : ℕ) (digits : Bytes) (n : ℕ) :
    digits.foldl (fun (n : ℤ) d ↦ base * n + digitValue d) n =
      (digits.foldl (fun n d ↦ base * n + digitValue d) n : ℕ) := by
  induction digits generalizing n with
  | nil => rfl
  | cons d digits ih =>
    rw [List.foldl_cons, List.foldl_cons, ← ih]
    push_cast
    rfl

/-- What `parse_attribute_int` makes of a result of `strtol`. -/
def intRead : ℤ × Bool × Bytes → Option ℤ
  | (value, outOfRange, inval) =>
    if outOfRange || value < intMin || value > intMax || inval ≠ [] then none else some value

/-- What does not fit into a `long` does not fit into an `int`. -/
theorem intRead_clamped (m : ℤ) (rest : Bytes) :
    intRead (if m > longMax then (longMax, true, rest)
      else if m < longMin then (longMin, true, rest) else (m, false, rest)) =
      if rest ≠ [] then none else (some m).filter fun n ↦ intMin ≤ n ∧ n ≤ intMax := by
  have hrange : intMin ≤ m ∧ m ≤ intMax → ¬m > longMax ∧ ¬m < longMin := by
    simp only [intMin, intMax, longMin, longMax]
    omega
  by_cases hm : intMin ≤ m ∧ m ≤ intMax
  · rw [if_neg (hrange hm).1, if_neg (hrange hm).2, Option.filter_some_pos (by simpa using hm)]
    by_cases hrest : rest = []
    · simp [intRead, hrest, hm.1.not_gt, hm.2.not_gt]
    · simp [intRead, hrest]
  · rw [Option.filter_some_neg (by simpa using hm), ite_self]
    split_ifs
    · rfl
    · rfl
    · rw [intRead, if_pos]
      simp only [Bool.or_eq_true, decide_eq_true_eq, not_and_or, not_le, gt_iff_lt] at hm ⊢
      exact .inl (hm.imp_left .inr)

/-- **`strtol` reads the literal**, if that is what there is. -/
theorem intRead_strtol {s : Bytes} (hne : s ≠ []) (hfirst : ∀ c ∈ s.head?, isspace c = false) :
    intRead (strtol s) = (intLiteral s).filter fun n ↦ intMin ≤ n ∧ n ≤ intMax := by
  have htext : s.dropWhile isspace = s := by
    obtain ⟨c, s, rfl⟩ := List.exists_cons_of_ne_nil hne
    exact List.dropWhile_cons_of_neg (by simp [hfirst c rfl])
  rw [intLiteral_eq]
  dsimp only
  rw [unsignedLiteral_eq, scanLiteral, strtol]
  dsimp only
  rw [htext]
  generalize (if decide (s.head? = some minus) || decide (s.head? = some 43) then s.tail else s) = t
  rcases strtolBase t with ⟨base, t⟩
  have hzero : (0 : ℤ) = (0 : ℕ) := rfl
  dsimp only
  generalize (t.takeWhile fun c ↦ digitValue c < base) = digits
  by_cases hdigits : digits = []
  · rw [if_pos hdigits, if_pos (.inl hdigits)]
    simp [intRead, hne]
  rw [if_neg hdigits, hzero, foldl_natCast, intRead_clamped]
  by_cases hrest : t.drop digits.length = []
  · have hread : ¬(digits = [] ∨ t.drop digits.length ≠ []) := by simp [hdigits, hrest]
    rw [if_neg (not_not.2 hrest), if_neg hread]
    rfl
  · rw [if_pos hrest, if_pos (.inr hrest)]
    rfl

/-! ### Values -/

/-- The verdict on a line, by what it does. -/
def Verdict.ofEffect : Option (FullConfig → FullConfig) → Verdict
  | none => .refused
  | some f => .accepted f

theorem boolean_eq {arg : Bytes} (hne : arg ≠ []) :
    (arg.headD nul = 49 || tolower (arg.headD nul) = 121 || tolower (arg.headD nul) = 116 : Bool) =
      decide (arg.head? ∈ [49, 121, 89, 116, 84].map some) := by
  obtain ⟨c, arg, rfl⟩ := List.exists_cons_of_ne_nil hne
  have hmem : (c :: arg).head? ∈ [49, 121, 89, 116, 84].map some ↔
      c = 49 ∨ c = 121 ∨ c = 89 ∨ c = 116 ∨ c = 84 := by simp
  rw [Bool.eq_iff_iff, decide_eq_true_iff, hmem, List.headD_cons, Bool.or_eq_true, Bool.or_eq_true,
    decide_eq_true_iff, decide_eq_true_iff, decide_eq_true_iff]
  constructor
  · rintro ((h | h) | h)
    · exact .inl h
    · rcases eq_of_tolower h with rfl | rfl <;> decide
    · rcases eq_of_tolower h with rfl | rfl <;> decide
  · rintro (h | h | h | h | h) <;> rw [h] <;> decide

/-- **The parser reads values as the reference does.** -/
theorem valueVerdict_eq {arg : Bytes} (hne : arg ≠ [])
    (hfirst : ∀ c ∈ arg.head?, isspace c = false) (dest : CfgVariable) :
    valueVerdict arg dest = .ofEffect (valueEffect arg dest) := by
  rcases dest with set | set | set
  · rfl
  · have hread := intRead_strtol hne hfirst
    rw [valueVerdict, valueEffect]
    generalize strtol arg = result at hread ⊢
    generalize intLiteral arg = literal at hread ⊢
    obtain ⟨value, outOfRange, inval⟩ := result
    rw [intRead] at hread
    dsimp only
    rcases literal with - | n
    · rw [Option.filter_none] at hread
      split_ifs at hread with hbad
      rw [if_pos hbad]
      rfl
    · by_cases hn : intMin ≤ n ∧ n ≤ intMax
      · rw [Option.filter_some_pos (by simpa using hn)] at hread
        split_ifs at hread with hbad
        obtain rfl := Option.some.inj hread
        rw [if_neg hbad]
        dsimp only
        rw [if_pos hn]
        rfl
      · rw [Option.filter_some_neg (by simpa using hn)] at hread
        split_ifs at hread with hbad
        rw [if_pos hbad]
        dsimp only
        rw [if_neg hn]
        rfl
  · rw [valueVerdict, valueEffect, ← boolean_eq hne]
    rfl

/-! ### Lines -/

/-- Text without a NUL, and without other white space than blanks. -/
def PlainLine (line : Bytes) : Prop := ∀ c ∈ line, c ≠ nul ∧ isspace c = isblank c

theorem PlainLine.of_subset {s t : Bytes} (h : PlainLine t) (hst : s ⊆ t) : PlainLine s :=
  fun c hc ↦ h c (hst hc)

theorem PlainLine.rdropWhile {s : Bytes} (h : PlainLine s) :
    s.rdropWhile isspace = s.rdropWhile isblank :=
  rdropWhile_congr fun c hc ↦ (h c hc).2

/-- What does not begin with a blank does not begin with white space. -/
theorem PlainLine.head {s : Bytes} (h : PlainLine s) (hfirst : ∀ c ∈ s.head?, isblank c = false) :
    ∀ c ∈ s.head?, isspace c = false :=
  fun c hc ↦ ((h c (List.mem_of_mem_head? hc)).2).trans (hfirst c hc)

theorem PlainLine.not_all {s : Bytes} (h : PlainLine s) (hfirst : ∀ c ∈ s.head?, isblank c = false)
    (hne : s ≠ []) : ¬s.all isspace := by
  obtain ⟨c, s, rfl⟩ := List.exists_cons_of_ne_nil hne
  intro hall
  have hspace := h.head hfirst c rfl
  simp [hspace] at hall

/-- **The parser reads lines as the reference does.** -/
theorem lineVerdict_eq {line : Bytes} (hplain : PlainLine line) (hcomment : line.head? ≠ some 35) :
    lineVerdict line = .ofEffect (lineEffect line) := by
  have hcstr : cstr line = line := cstr_of_not_mem fun h ↦ (hplain nul h).1 rfl
  have hbody : PlainLine (line.dropWhile isblank) :=
    hplain.of_subset (List.dropWhile_sublist _).subset
  have hfirst : ∀ c ∈ (line.dropWhile isblank).head?, isblank c = false := head?_dropWhile
  rw [lineVerdict, hcstr, lineEffect]
  by_cases hblank : line.all isblank
  · have hnil : line.dropWhile isblank = [] :=
      List.dropWhile_eq_nil_iff.2 (List.all_eq_true.1 hblank)
    rw [if_pos hnil, if_pos (.inl hblank)]
    rfl
  have hne : line.dropWhile isblank ≠ [] := fun h ↦
    hblank (List.all_eq_true.2 (List.dropWhile_eq_nil_iff.1 h))
  rw [if_neg hne, if_neg (hbody.not_all hfirst hne), if_neg (by simp [hblank, hcomment]),
    hbody.rdropWhile]
  by_cases hmem : 61 ∈ line
  · obtain ⟨front, rest, rfl, hfront⟩ := List.eq_append_cons_of_mem hmem
    have heq : isblank 61 = false := by decide
    have hneq : ∀ {key : Bytes}, 61 ∉ key → ∀ c ∈ key, decide (c ≠ 61) = true := fun hkey c hc ↦
      decide_eq_true fun h ↦ hkey (h ▸ hc)
    have htake : ∀ {key : Bytes} (rest : Bytes), 61 ∉ key →
        (key ++ 61 :: rest).takeWhile (· ≠ 61) = key := fun rest hkey ↦ by
      rw [List.takeWhile_append_of_pos (hneq hkey), List.takeWhile_cons_of_neg (by simp),
        List.append_nil]
    have hdrop : ∀ {key : Bytes} (rest : Bytes), 61 ∉ key →
        (key ++ 61 :: rest).dropWhile (· ≠ 61) = 61 :: rest := fun rest hkey ↦ by
      rw [List.dropWhile_append_of_pos (hneq hkey), List.dropWhile_cons_of_neg (by simp)]
    have hkey : 61 ∉ front.dropWhile isblank := fun h ↦
      hfront ((List.dropWhile_sublist _).subset h)
    -- the line without the blanks around it
    rw [dropWhile_append_cons heq, rdropWhile_append_cons heq, textVerdict, htake _ hkey,
      hdrop _ hkey, htake _ hfront, hdrop _ hfront, List.tail_cons, List.tail_cons,
      if_neg (by simp), dropWhile_rdropWhile, ← strip]
    by_cases hvalue : strip rest = []
    · rw [if_pos hvalue, if_pos (.inr hvalue)]
      rfl
    have hkeyplain : PlainLine (front.dropWhile isblank) := hplain.of_subset fun c hc ↦
      List.mem_append_left _ ((List.dropWhile_sublist _).subset hc)
    have hvalueplain : PlainLine (strip rest) := hplain.of_subset fun c hc ↦
      List.mem_append_right _ (List.mem_cons_of_mem _
        ((List.dropWhile_sublist _).subset ((List.rdropWhile_prefix _ _).subset hc)))
    have hvaluefirst : ∀ c ∈ (strip rest).head?, isblank c = false := by
      rw [strip, ← dropWhile_rdropWhile]
      exact head?_dropWhile
    rw [if_neg hvalue, if_neg (by simp [hvalue]), optionVerdict,
      if_neg fun h ↦ hkeyplain.not_all head?_dropWhile h.1 h.2, hkeyplain.rdropWhile, ← strip]
    generalize coreConfigTable.find? _ = found
    rcases found with - | option
    · rfl
    · exact valueVerdict_eq hvalue (hvalueplain.head hvaluefirst) option.dest
  · rw [textVerdict, if_pos fun h ↦ hmem ?_, if_pos (.inl hmem)]
    · rfl
    · exact (List.dropWhile_sublist _).subset ((List.rdropWhile_prefix _ _).subset h)

/-! ### The file -/

/-- A configuration text: without a NUL, and without other white space than blanks and the ends of
lines. -/
def PlainText (text : Bytes) : Prop :=
  ∀ c ∈ text, c ≠ nul ∧ (isspace c = true → isblank c = true ∨ c = lf)

instance : DecidablePred PlainText := fun _ ↦ inferInstanceAs (Decidable (∀ _ ∈ _, _))

/-- How the reference reads the lines. -/
theorem readLines_eq {lines : List Bytes} (hplain : ∀ line ∈ lines, PlainLine line)
    (c : FullConfig) : readLines lines c =
      if ∀ line ∈ lines, Acceptable line then .finished (applyLines lines c)
      else .refused (applyLines (lines.takeWhile (Acceptable ·)) c) := by
  induction lines generalizing c with
  | nil => simp [readLines, applyLines]
  | cons line lines ih =>
    obtain ⟨hline, hlines⟩ := List.forall_mem_cons.1 hplain
    rw [readLines, List.takeWhile_cons]
    simp only [List.forall_mem_cons]
    by_cases hcomment : line.head? = some 35
    · have heffect : lineEffect line = some id := if_pos (.inr hcomment)
      have hacceptable : Acceptable line := by simp [Acceptable, heffect]
      rw [if_pos hcomment, ih hlines]
      simp [hacceptable, applyLines, heffect]
    rw [if_neg hcomment, lineVerdict_eq hline hcomment]
    rcases heffect : lineEffect line with - | f
    · have hacceptable : ¬Acceptable line := by simp [Acceptable, heffect]
      simp [hacceptable, applyLines, Verdict.ofEffect]
    · have hacceptable : Acceptable line := by simp [Acceptable, heffect]
      simp only [Verdict.ofEffect]
      rw [ih hlines]
      simp [hacceptable, applyLines, heffect]

/-! ### The options -/

/-- What the option writes is read back under its name, and nowhere else. -/
def ReadBack (entry : ConfigTableEntry) (reader : String × (FullConfig → OptionValue)) : Prop :=
  match entry.dest with
  | .int set => ∀ n c, reader.2 (set n c) = if entry.name = reader.1 then .int n else reader.2 c
  | .bool set => ∀ b c, reader.2 (set b c) = if entry.name = reader.1 then .bool b else reader.2 c
  | .str set => ∀ s c, reader.2 (set s c) = if entry.name = reader.1 then .str s else reader.2 c

theorem coreConfigTable_readBack :
    ∀ entry ∈ coreConfigTable, ∀ reader ∈ optionReaders, ReadBack entry reader := by
  simp [coreConfigTable, optionReaders, ReadBack]

theorem reader_valueEffect {entry : ConfigTableEntry} (hentry : entry ∈ coreConfigTable)
    {reader : String × (FullConfig → OptionValue)} (hreader : reader ∈ optionReaders)
    {value : Bytes} {f : FullConfig → FullConfig} (hf : valueEffect value entry.dest = some f)
    (c : FullConfig) :
    some (reader.2 (f c)) =
      if entry.name = reader.1 then convert value entry.dest else some (reader.2 c) := by
  have hread := coreConfigTable_readBack entry hentry reader hreader
  rw [ReadBack] at hread
  rcases hdest : entry.dest with set | set | set
  · simp only [hdest] at hread hf ⊢
    obtain rfl := Option.some.inj hf
    rw [hread]
    split_ifs <;> rfl
  · simp only [hdest] at hread hf ⊢
    rw [valueEffect] at hf
    rw [convert]
    rcases hliteral : intLiteral value with - | n
    · simp [hliteral] at hf
    · simp only [hliteral] at hf ⊢
      split_ifs at hf with hn
      obtain rfl := Option.some.inj hf
      rw [hread, if_pos hn]
      split_ifs <;> rfl
  · simp only [hdest] at hread hf ⊢
    obtain rfl := Option.some.inj hf
    rw [hread]
    split_ifs <;> rfl

theorem reader_lineEffect {reader : String × (FullConfig → OptionValue)}
    (hreader : reader ∈ optionReaders) {line : Bytes} {f : FullConfig → FullConfig}
    (hf : lineEffect line = some f) (c : FullConfig) :
    reader.2 (f c) = (((lineOption line).bind fun (n, v) ↦
      if n = reader.1 then some v else none).getD (reader.2 c)) := by
  rw [lineEffect] at hf
  rw [lineOption]
  by_cases hblank : line.all isblank ∨ line.head? = some 35
  · rw [if_pos hblank] at hf ⊢
    obtain rfl := Option.some.inj hf
    rfl
  rw [if_neg hblank] at hf ⊢
  split_ifs at hf with hbad
  obtain ⟨entry, hfind, hvalue⟩ := Option.bind_eq_some_iff.1 hf
  have hread := reader_valueEffect (List.mem_of_find?_eq_some hfind) hreader hvalue c
  rw [hfind, Option.bind_some]
  by_cases hname : entry.name = reader.1
  · rw [if_pos hname] at hread
    rw [← hread]
    simp [hname]
  · rw [if_neg hname] at hread
    rw [Option.some.inj hread]
    rcases convert _ entry.dest with - | v
    · rfl
    · simp [hname]

/-- **Each option holds the value of its last line**, or the one it had before. -/
theorem reader_applyLines {reader : String × (FullConfig → OptionValue)}
    (hreader : reader ∈ optionReaders) {lines : List Bytes}
    (hlines : ∀ line ∈ lines, Acceptable line) (c : FullConfig) :
    reader.2 (applyLines lines c) = (lastValue reader.1 lines).getD (reader.2 c) := by
  induction lines generalizing c with
  | nil => rfl
  | cons line lines ih =>
    obtain ⟨hline, hlines⟩ := List.forall_mem_cons.1 hlines
    obtain ⟨f, hf⟩ := Option.isSome_iff_exists.1 hline
    have hstep : applyLines (line :: lines) c = applyLines lines (f c) := by
      simp [applyLines, hf]
    rw [hstep, ih hlines, reader_lineEffect hreader hf, lastValue, lastValue, List.filterMap_cons]
    rcases (lineOption line).bind _ with - | v
    · rfl
    · simp only [List.getLast?_cons, Option.getD_some]

/-! ### `parse_config` -/

/-- A run of `parse_config` that does what the reference does. -/
def FollowsReference (text : Bytes) (c : FullConfig) (run : Outcome FtpRet × ConfigWorld) : Prop :=
  let lines := text.splitOn lf
  if ∀ line ∈ lines, Acceptable line then
    run.1 = .ret .success ∧ run.2.st = applyLines lines c ∧
      ∀ option ∈ optionReaders,
        option.2 run.2.st = (lastValue option.1 lines).getD (option.2 c)
  else
    run.1 = .ret .error ∧ run.2.st = applyLines (lines.takeWhile (Acceptable ·)) c

theorem FollowsReference.returns {text : Bytes} {c : FullConfig}
    {run : Outcome FtpRet × ConfigWorld} (h : FollowsReference text c run) :
    ∃ ret, run.1 = .ret ret := by
  rw [FollowsReference] at h
  split_ifs at h
  · exact ⟨_, h.1⟩
  · exact ⟨_, h.1⟩

/-- Which bytes behind the end of the file can be read. -/
structure Mapping (readable : ℕ → Bool) (e : ConfigEnv) : Prop where
  peek : ∀ trace i, Option.isSome (α := UInt8) (e.answer trace (ConfigCall.peek i)) = readable i

theorem Mapping.eq_of_peeked {readable : ℕ → Bool} {e : ConfigEnv} (h : Mapping readable e) {i : ℕ}
    {b : Bool} (hpeeked : Peeked e i b) : readable i = b := by
  obtain ⟨trace, htrace⟩ := hpeeked
  rw [← h.peek trace i, htrace]

theorem mem_splitOn {text line : Bytes} (h : line ∈ text.splitOn lf) : lf ∉ line ∧ line ⊆ text := by
  induction hlen : text.length using Nat.strong_induction_on generalizing text with
  | _ n ih =>
    by_cases hmem : lf ∈ text
    · obtain ⟨front, rest, rfl, hfront⟩ := List.eq_append_cons_of_mem hmem
      rw [List.splitOn_append_cons_self_of_not_mem hfront] at h
      rcases List.mem_cons.1 h with rfl | h
      · exact ⟨hfront, List.subset_append_left _ _⟩
      · obtain ⟨hlf, hsub⟩ := ih rest.length (by simp [← hlen]; omega) h rfl
        exact ⟨hlf, fun c hc ↦ List.mem_append_right _ (List.mem_cons_of_mem _ (hsub hc))⟩
    · rw [List.splitOn_eq_singleton hmem] at h
      obtain rfl := List.mem_singleton.1 h
      exact ⟨hmem, List.Subset.refl _⟩

theorem plainLine_of_mem {text line : Bytes} (htext : PlainText text)
    (hline : line ∈ text.splitOn lf) : PlainLine line := by
  obtain ⟨hlf, hsub⟩ := mem_splitOn hline
  intro c hc
  obtain ⟨hnul, hspace⟩ := htext c (hsub hc)
  refine ⟨hnul, ?_⟩
  rcases hblank : isblank c with - | -
  · rw [← Bool.not_eq_true]
    intro h
    rcases hspace h with h | rfl
    · simp [hblank] at h
    · exact hlf hc
  · exact isspace_of_isblank hblank

/-- The lines of a text are read like those of the reference, until the end comes. -/
theorem parseConfig_follows {text : Bytes} (hplain : PlainText text) (hne : text ≠ [])
    {c : FullConfig} {e : ConfigEnv} {readable : ℕ → Bool} (hgrants : Granting e)
    (hmap : Mapping readable e) (hlimit : 2 * (text.splitOn lf).length + 1 < e.limit) :
    FollowsReference text c (parseConfig text text.length e (World.start c)) ↔
      (∃ line ∈ text.splitOn lf, ¬Acceptable line) ∨ readable (behind text) = true := by
  have hwp := parseConfig_wp (w := World.start c) hgrants hne (by simpa [World.start] using hlimit)
  have hread : readLines (text.splitOn lf) c = _ :=
    readLines_eq (fun line hline ↦ plainLine_of_mem hplain hline) c
  have hst : (World.start c : ConfigWorld).st = c := rfl
  rw [hst, hread] at hwp
  rw [FollowsReference]
  by_cases hall : ∀ line ∈ text.splitOn lf, Acceptable line
  · have hnone : ¬∃ line ∈ text.splitOn lf, ¬Acceptable line := by simpa using hall
    rw [if_pos hall] at hwp ⊢
    rw [or_iff_right hnone]
    rcases hrun : parseConfig text text.length e (World.start c) with ⟨ret | k, w'⟩
    · obtain ⟨hpeeked, rfl, hst, -⟩ := wp_ret hwp hrun
      refine iff_of_true ⟨rfl, hst, fun option hoption ↦ ?_⟩ (hmap.eq_of_peeked hpeeked)
      exact (congrArg option.2 hst).trans (reader_applyLines hoption hall c)
    · obtain ⟨hpeeked, -⟩ := wp_halt hwp hrun
      refine iff_of_false (fun h ↦ absurd h.1 (by simp)) ?_
      rw [hmap.eq_of_peeked hpeeked]
      exact Bool.false_ne_true
  · have hsome : ∃ line ∈ text.splitOn lf, ¬Acceptable line := by simpa using hall
    rw [if_neg hall] at hwp ⊢
    refine iff_of_true ?_ (.inl hsome)
    rcases hrun : parseConfig text text.length e (World.start c) with ⟨ret | k, w'⟩
    · obtain ⟨rfl, hst, -⟩ := wp_ret hwp hrun
      exact ⟨rfl, hst⟩
    · exact (wp_halt hwp hrun).elim

/-- Of an empty text there is nothing to read. -/
theorem parseConfig_nil {c : FullConfig} {e : ConfigEnv} (hgrants : Granting e)
    (hlimit : 0 < e.limit) :
    FollowsReference [] c (parseConfig [] ([] : Bytes).length e (World.start c)) := by
  have hwp : wp e (parseConfig [] ([] : Bytes).length)
      (fun ret w' ↦ ret = .success ∧ w'.st = c) (fun _ _ ↦ False) (World.start c) := by
    rw [parseConfig, wp_bind]
    refine wp_ask_of_lt hlimit fun r hr ↦ ?_
    obtain ⟨block, hblock⟩ := hgrants.malloc (World.start (I := configKernel) c).trace 81
    obtain rfl : r = some block := hr ▸ hblock
    exact ⟨rfl, rfl⟩
  obtain ⟨ret, w', hrun, rfl, hst⟩ := exists_ret_of_wp hwp
  have hall : ∀ line ∈ ([] : Bytes).splitOn lf, Acceptable line := by
    rw [List.splitOn_nil, List.forall_mem_singleton]
    decide
  rw [FollowsReference, hrun]
  dsimp only
  rw [if_pos hall]
  refine ⟨rfl, hst, fun option hoption ↦ ?_⟩
  rw [← reader_applyLines hoption hall c, hst]
  rfl

/-- **`parse_config` does what the reference does**, unless it comes to the end of the text and may
not read behind it. -/
theorem parseConfig_reference (text : Bytes) (hplain : PlainText text) (c : FullConfig)
    (e : ConfigEnv) (readable : ℕ → Bool) (hgrants : Granting e) (hmap : Mapping readable e)
    (hlimit : 2 * (text.splitOn lf).length + 1 < e.limit) :
    FollowsReference text c (parseConfig text text.length e (World.start c)) ↔
      text = [] ∨ (∃ line ∈ text.splitOn lf, ¬Acceptable line) ∨ readable (behind text) = true := by
  by_cases hne : text = []
  · refine iff_of_true ?_ (.inl hne)
    subst hne
    exact parseConfig_nil hgrants (by omega)
  · rw [or_iff_right hne]
    exact parseConfig_follows hplain hne hgrants hmap hlimit

theorem parseConfig_reference_options :
    let text := ofString "# FTP\n MaxClients = 5\n\nallowanonymous=yes\nmaxclients=0x7"
    FollowsReference text FullConfig.defaults
        (parseConfig text text.length grantingEnv (World.start FullConfig.defaults)) ↔
      text = [] ∨ (∃ line ∈ text.splitOn lf, ¬Acceptable line) ∨ true = true :=
  parseConfig_reference (ofString "# FTP\n MaxClients = 5\n\nallowanonymous=yes\nmaxclients=0x7")
    (by decide +kernel) FullConfig.defaults grantingEnv (fun _ ↦ true) grantingEnv_granting
    ⟨fun _ _ ↦ rfl⟩ (by decide +kernel)

/-- A machine on which nothing is mapped behind the page that the file ends in. -/
def pagedEnv : ConfigEnv where
  answer _ c :=
    match c with
    | .malloc size | .realloc size => some ⟨List.replicate size nul, List.length_replicate⟩
    | .peek i => if i % 4096 = 0 then none else some nul
    | .open | .fstat | .mmap _ | .munmap _ | .close | .strdup _ => true
  limit := 100

/-- A comment that fills the page, up to the end of its line. -/
def pageText : Bytes := List.replicate 4095 35 ++ [lf]

theorem length_pageText : pageText.length = 4096 := by
  rw [pageText, List.length_append, List.length_replicate]
  rfl

theorem parseConfig_pageText :
    (parseConfig pageText 4096 pagedEnv (World.start FullConfig.defaults)).1 = .halt .fault := by
  decide +kernel

/-- Behind a page the parser traps, though there is nothing wrong with its text. -/
theorem pageText_traps :
    ¬FollowsReference pageText FullConfig.defaults
      (parseConfig pageText pageText.length pagedEnv (World.start FullConfig.defaults)) := by
  refine mt FollowsReference.returns ?_
  rintro ⟨ret, hret⟩
  rw [length_pageText] at hret
  exact absurd (parseConfig_pageText.symm.trans hret) (by simp)

end FtpServer
