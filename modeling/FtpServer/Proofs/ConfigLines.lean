import FtpServer.Proofs.Configuration
import FtpServer.Proofs.Trim

/-!
# The lines of a configuration file

What `parse_attribute` does with a line, whatever it is made of (`lineVerdict`): it takes it, or
refuses it, or trims a string of white space that does not begin with a blank, for which
`trim_whitespace` runs over the start of the buffer.

* `Verdict` has the three cases, and `valueVerdict`, `optionVerdict` and `textVerdict` lead up to
  the verdict on a line, each for what one function of the source looks at.
* `Verdict.Reached` and `Verdict.Faulted` say how a run ends by its verdict, and `parseAttribute_wp`
  that `parse_attribute` ends so. `splitAttribute_eq` is where the line is cut in two.
-/

namespace FtpServer

open CString Effect Effect.Proc Stripping

/-- A world of the loader, and an environment. -/
abbrev ConfigWorld := Effect.World configKernel FullConfig

abbrev ConfigEnv := Effect.Env configKernel

/-! ### The verdict on a line -/

/-- What a line does: it leaves the behaviour undefined, is refused, or changes the configuration.
-/
inductive Verdict where
  | undefined
  | refused
  | accepted (f : FullConfig → FullConfig)

/-- The verdict on the value of an option. -/
def valueVerdict (arg : Bytes) : CfgVariable → Verdict
  | .int set =>
    let (value, outOfRange, inval) := strtol arg
    if outOfRange || value < intMin || value > intMax || inval ≠ [] then .refused
    else .accepted (set value)
  | .bool set =>
    let c := arg.headD nul
    .accepted (set (c = 49 || tolower c = 121 || tolower c = 116))
  | .str set => .accepted (set (some arg))

/-- The verdict on an option and its value. -/
def optionVerdict (key arg : Bytes) : Verdict :=
  if key ≠ [] ∧ key.all isspace then .undefined
  else
    match coreConfigTable.find? fun o ↦ strcaseeq (ofString o.name) (key.rdropWhile isspace) with
    | none => .refused
    | some option => valueVerdict arg option.dest

/-- The verdict on a line without white space around it. -/
def textVerdict (text : Bytes) : Verdict :=
  let arg := ((text.dropWhile (· ≠ 61)).tail).dropWhile isblank
  if 61 ∉ text then .refused
  else if arg = [] then .refused
  else optionVerdict (text.takeWhile (· ≠ 61)) arg

/-- The verdict on a line, up to a NUL in it. -/
def lineVerdict (line : Bytes) : Verdict :=
  let body := (cstr line).dropWhile isblank
  if body = [] then .accepted id
  else if body.all isspace then .undefined
  else textVerdict (body.rdropWhile isspace)

/-! ### What the loader asks for -/

def peek? : Item configKernel → Option ℕ
  | .call (.peek i) _ => some i
  | _ => none

/-- Where the file was read behind its end. -/
def peeksOf (trace : List (Item configKernel)) : List ℕ := trace.filterMap peek?

variable {e : ConfigEnv} {w w' w'' : ConfigWorld} {H : Halt → ConfigWorld → Prop}

/-- There is memory for the lines. -/
structure Granting (e : ConfigEnv) : Prop where
  malloc : ∀ trace size, ∃ block : { block : Bytes // block.length = size },
    e.answer trace (ConfigCall.malloc size) = some block
  realloc : ∀ trace size, ∃ block : { block : Bytes // block.length = size },
    e.answer trace (ConfigCall.realloc size) = some block
  strdup : ∀ trace s, e.answer trace (ConfigCall.strdup s) = true

theorem wp_ask_of_lt {c : ConfigCall} {Q : c.Ret → ConfigWorld → Prop}
    (hlt : w.trace.length < e.limit)
    (hret : ∀ r : c.Ret, e.answer w.trace c = r → Q r { w with trace := w.trace ++ [.call c r] }) :
    wp e (ask c) Q H w :=
  wp_perform_of_lt (I := configKernel) (c := c) hlt (hret _ rfl)

/-- At most `n` calls were made, and the file was not read behind its end. -/
structure Inside (n : ℕ) (w w' : ConfigWorld) : Prop where
  grown : ∃ run, w'.trace = w.trace ++ run ∧ run.length ≤ n ∧ peeksOf run = []

theorem Inside.refl (n : ℕ) (h : w'.trace = w.trace) : Inside n w w' :=
  ⟨[], by simpa using h, Nat.zero_le _, rfl⟩

theorem Inside.trans {m n : ℕ} (h : Inside m w w') (h' : Inside n w' w'') :
    Inside (m + n) w w'' := by
  obtain ⟨run, ht, hlen, hpeeks⟩ := h.grown
  obtain ⟨run', ht', hlen', hpeeks'⟩ := h'.grown
  refine ⟨run ++ run', by rw [ht', ht, List.append_assoc], ?_, ?_⟩
  · rw [List.length_append]
    exact Nat.add_le_add hlen hlen'
  · rw [peeksOf, List.filterMap_append, ← peeksOf, ← peeksOf, hpeeks, hpeeks', List.append_nil]

/-! ### Values -/

/-- How a part of `parse_attribute` ends. -/
def Verdict.Reached (v : Verdict) (w : ConfigWorld) (ret : ParseError) (w' : ConfigWorld) : Prop :=
  match v with
  | .undefined => False
  | .refused => ret ≠ .success ∧ w'.st = w.st ∧ Inside 1 w w'
  | .accepted f => ret = .success ∧ w'.st = f w.st ∧ Inside 1 w w'

/-- How it ends early. -/
def Verdict.Faulted (v : Verdict) (w : ConfigWorld) (k : Halt) (w' : ConfigWorld) : Prop :=
  v = .undefined ∧ k = .fault ∧ Inside 1 w w'

theorem parseAttributeInt_wp (arg : Bytes) (set : ℤ → FullConfig → FullConfig) :
    wp e (parseAttributeInt arg set) ((valueVerdict arg (.int set)).Reached w) H w := by
  rcases hs : strtol arg with ⟨value, outOfRange, inval⟩
  simp only [parseAttributeInt, valueVerdict, hs]
  by_cases hrange : (outOfRange || value < intMin || value > intMax) = true
  · rw [if_pos hrange, hrange, Bool.true_or, if_pos rfl]
    exact ⟨by decide, rfl, .refl _ rfl⟩
  · rw [if_neg hrange, Bool.not_eq_true] at *
    rw [hrange, Bool.false_or]
    by_cases hinval : inval = []
    · simp only [hinval, ne_eq, not_true_eq_false, decide_false, if_false]
      exact ⟨rfl, rfl, .refl _ rfl⟩
    · simp only [ne_eq, hinval, not_false_eq_true, decide_true, if_true]
      exact ⟨by decide, rfl, .refl _ rfl⟩

theorem parseAttributeString_wp (hgrants : Granting e) (hlt : w.trace.length < e.limit)
    {arg : Bytes} (hne : arg ≠ []) (hfirst : ∀ c ∈ arg.head?, isblank c = false)
    (hlast : ∀ c ∈ arg.getLast?, isspace c = false) (hnul : nul ∉ arg) (pre post : Bytes)
    (set : Option Bytes → FullConfig → FullConfig) :
    wp e (parseAttributeString (pre ++ (arg ++ nul :: post)) pre.length set)
      ((valueVerdict arg (.str set)).Reached w) H w := by
  have htrim := @trimWhitespace_text [] arg [] (by simp) hfirst hlast hne (by simp) hnul pre post
  simp only [List.nil_append, List.length_nil, Nat.add_zero, List.tail_cons] at htrim
  have hcstr : cstr (arg ++ nul :: post) = arg := cstr_append_zero hnul post
  rw [parseAttributeString, htrim]
  dsimp only
  rw [List.drop_left, hcstr, wp_bind]
  refine wp_ask_of_lt hlt fun r hr ↦ ?_
  obtain rfl : r = true := hr ▸ hgrants.strdup _ _
  exact ⟨rfl, rfl, ⟨_, rfl, le_rfl, rfl⟩⟩

theorem parseValue_wp (hgrants : Granting e) (hlt : w.trace.length < e.limit)
    {arg : Bytes} (hne : arg ≠ []) (hfirst : ∀ c ∈ arg.head?, isblank c = false)
    (hlast : ∀ c ∈ arg.getLast?, isspace c = false) (hnul : nul ∉ arg) (pre post : Bytes)
    (dest : CfgVariable) :
    wp e (parseValue (pre ++ (arg ++ nul :: post)) pre.length dest)
      ((valueVerdict arg dest).Reached w) H w := by
  have hcstr : cstr ((pre ++ (arg ++ nul :: post)).drop pre.length) = arg := by
    rw [List.drop_left]
    exact cstr_append_zero hnul post
  rcases dest with set | set | set
  · exact parseAttributeString_wp hgrants hlt hne hfirst hlast hnul pre post set
  · rw [parseValue, hcstr]
    exact parseAttributeInt_wp arg set
  · rw [parseValue, hcstr]
    exact ⟨rfl, rfl, .refl _ rfl⟩

/-! ### An option and its value -/

/-- The name of the option is trimmed in front of the value. -/
theorem trimWhitespace_key {front key : Bytes} (hfirst : ∀ c ∈ key.head?, isblank c = false)
    (hnul : nul ∉ key) (hkey : ¬(key ≠ [] ∧ key.all isspace)) (rest : Bytes) :
    ∃ pre, trimWhitespace (front ++ (key ++ nul :: rest)) front.length =
        some (pre ++ rest, front.length) ∧ pre.length = front.length + key.length + 1 ∧
      cstr ((pre ++ rest).drop front.length) = key.rdropWhile isspace := by
  by_cases hne : key = []
  · subst hne
    refine ⟨front ++ [nul], ?_, by simp, ?_⟩
    · simpa using trimWhitespace_blank (s := []) (by simp) front rest
    · rw [List.append_assoc, List.drop_left]
      rfl
  have hne' := rdropWhile_ne_nil hkey hne
  have hnul' : nul ∉ key.rdropWhile isspace := not_mem_rdropWhile hnul
  have htrim := @trimWhitespace_text [] _ _ (by simp)
    (fun c hc ↦ hfirst c (head?_rdropWhile hne' ▸ hc)) getLast?_rdropWhile hne'
    (fun c ↦ List.mem_rtakeWhile_imp (p := isspace) (l := key)) hnul' front rest
  have hsplit := List.rdropWhile_append_rtakeWhile (p := isspace) (l := key)
  have hlen := congrArg List.length hsplit
  rw [List.length_append] at hlen
  rw [List.nil_append, ← List.append_assoc (key.rdropWhile isspace), hsplit, List.length_nil,
    Nat.add_zero] at htrim
  refine ⟨front ++ (key.rdropWhile isspace ++ nul :: (key.rtakeWhile isspace ++ [nul]).tail),
    ?_, ?_, ?_⟩
  · rw [htrim]
    have htail : (key.rtakeWhile isspace ++ nul :: rest).tail =
        (key.rtakeWhile isspace ++ [nul]).tail ++ rest := by
      rcases key.rtakeWhile isspace with - | ⟨c, trail⟩ <;> simp
    simp [htail]
  · simp only [List.length_append, List.length_cons, List.length_tail, List.length_nil]
    omega
  · rw [List.append_assoc, List.drop_left, List.append_assoc]
    exact cstr_append_zero hnul' _

/-- Where the value begins. -/
theorem splitAttribute_eq {front key lead arg post : Bytes} (hkey : 61 ∉ key) (hnul : nul ∉ key)
    (hnul' : nul ∉ lead ++ arg) (hlead : ∀ c ∈ lead, isblank c = true)
    (hfirst : ∀ c ∈ arg.head?, isblank c = false) :
    splitAttribute (front ++ (key ++ 61 :: (lead ++ (arg ++ nul :: post)))) front.length =
      if arg = [] then
        some (front ++ (key ++ nul :: (lead ++ (arg ++ nul :: post))), front.length, none)
      else
        (trimWhitespace (front ++ (key ++ nul :: (lead ++ (arg ++ nul :: post)))) front.length).map
          fun (buf, line) ↦ (buf, line, some (front.length + key.length + 1 + lead.length)) := by
  have hcstr : cstr (key ++ 61 :: (lead ++ (arg ++ nul :: post))) = key ++ 61 :: (lead ++ arg) := by
    have h : nul ∉ key ++ 61 :: (lead ++ arg) := by
      simp only [List.mem_append, List.mem_cons, not_or] at hnul hnul' ⊢
      exact ⟨hnul, by decide, hnul'⟩
    have hzero := cstr_append_zero h post
    rw [List.append_assoc, List.cons_append, List.append_assoc] at hzero
    exact hzero
  have hstore : store (front ++ (key ++ 61 :: (lead ++ (arg ++ nul :: post))))
      (front.length + key.length) nul =
        some (front ++ (key ++ nul :: (lead ++ (arg ++ nul :: post)))) := by
    rw [store, if_pos (by simp), List.set_append_right _ _ (by omega), Nat.add_sub_cancel_left,
      List.set_append_right _ _ le_rfl, Nat.sub_self, List.set_cons_zero]
  -- the scan passes the blanks behind the `=` and ends at the argument, or at the NUL
  have hscan : ∀ c rest, isblank c = false → arg ++ nul :: post = c :: rest →
      scanForward isblank (front ++ (key ++ nul :: (lead ++ (arg ++ nul :: post))))
        (front.length + key.length + 1) = some (front.length + key.length + 1 + lead.length) := by
    intro c rest hc heq
    have h := scanForward_append hlead hc (front ++ (key ++ [nul])) rest
    rw [heq]
    simpa [Nat.add_assoc] using h
  have hget : ∀ c rest, arg ++ nul :: post = c :: rest →
      (front ++ (key ++ nul :: (lead ++ (arg ++ nul :: post))))[
        front.length + key.length + 1 + lead.length]? = some c := by
    intro c rest heq
    have hfront : front ++ (key ++ nul :: (lead ++ c :: rest)) =
        (front ++ (key ++ nul :: lead)) ++ c :: rest := by simp
    have hlen : front.length + key.length + 1 + lead.length =
        (front ++ (key ++ nul :: lead)).length := by
      simp only [List.length_append, List.length_cons]
      omega
    rw [heq, hfront, hlen, List.getElem?_append_right le_rfl, Nat.sub_self]
    rfl
  rw [splitAttribute, List.drop_left, hcstr, findIdx?_eq_length hkey]
  simp only [hstore, Option.bind_eq_bind, Option.bind_some]
  rcases arg with - | ⟨c, arg⟩
  · rw [hscan nul post (by decide) rfl]
    simp only [Option.bind_some, hget nul post rfl, if_true]
    rfl
  · rw [hscan c (arg ++ nul :: post) (hfirst c rfl) rfl]
    have hc : c ≠ nul := by
      rintro rfl
      exact hnul' (by simp)
    simp only [Option.bind_some, hget c (arg ++ nul :: post) rfl, Option.some.injEq, if_neg hc]
    rcases trimWhitespace _ _ with - | ⟨buf, line⟩ <;> simp

/-! ### A line -/

/-- `parse_attribute` behind the first trimming. -/
theorem parseText_wp (hgrants : Granting e) (hlt : w.trace.length < e.limit) {front text : Bytes}
    (hfront : ∀ c ∈ front, isblank c = true) (hfirst : ∀ c ∈ text.head?, isblank c = false)
    (hlast : ∀ c ∈ text.getLast?, isspace c = false) (hnul : nul ∉ text) (post : Bytes) :
    wp e (match splitAttribute (front ++ (text ++ nul :: post)) front.length with
      | none => Proc.fault
      | some (_, _, none) => return .missingArgument
      | some (buf, line, some argument) =>
        match coreConfigTable.find? fun o ↦ strcaseeq (ofString o.name) (cstr (buf.drop line)) with
        | none => return .unknownOption
        | some option => parseValue buf argument option.dest)
      ((textVerdict text).Reached w) ((textVerdict text).Faulted w) w := by
  by_cases hmem : 61 ∈ text
  · obtain ⟨key, val, rfl, hkey⟩ := List.eq_append_cons_of_mem hmem
    set lead := val.takeWhile isblank with hleaddef
    set arg := val.dropWhile isblank with hargdef
    have hval : val = lead ++ arg := (List.takeWhile_append_dropWhile).symm
    have hlead : ∀ c ∈ lead, isblank c = true := fun c hc ↦ List.mem_takeWhile_imp hc
    have harg : ∀ c ∈ arg.head?, isblank c = false := head?_dropWhile
    have hverdict : textVerdict (key ++ 61 :: val) =
        if arg = [] then .refused else optionVerdict key arg := by
      have hne : ∀ c ∈ key, decide (c ≠ 61) = true := fun c hc ↦
        decide_eq_true fun heq ↦ hkey (heq ▸ hc)
      have htake : (key ++ 61 :: val).takeWhile (· ≠ 61) = key := by
        rw [List.takeWhile_append_of_pos hne, List.takeWhile_cons_of_neg (by simp), List.append_nil]
      have hdrop : (key ++ 61 :: val).dropWhile (· ≠ 61) = 61 :: val := by
        rw [List.dropWhile_append_of_pos hne, List.dropWhile_cons_of_neg (by simp)]
      rw [textVerdict, if_neg (not_not.2 hmem), htake, hdrop, List.tail_cons]
    simp only [List.mem_append, List.mem_cons, not_or] at hnul
    have hsplit := @splitAttribute_eq front key lead arg post hkey hnul.1
      (by rw [← hval]; exact hnul.2.2) hlead harg
    have hbuf : front ++ (key ++ 61 :: val ++ nul :: post) =
        front ++ (key ++ 61 :: (lead ++ (arg ++ nul :: post))) := by
      rw [hval]
      simp
    rw [hbuf, hsplit, hverdict]
    -- an option without a value is refused before its name is looked at
    by_cases hnone : arg = []
    · rw [if_pos hnone, if_pos hnone]
      exact ⟨by decide, rfl, .refl _ rfl⟩
    rw [if_neg hnone, if_neg hnone, optionVerdict]
    have hkeyfirst : ∀ c ∈ key.head?, isblank c = false := by
      rcases key with - | ⟨c, key⟩
      · simp
      · exact hfirst
    have harglast : ∀ c ∈ arg.getLast?, isspace c = false := by
      intro c hc
      refine hlast c ?_
      rw [hval, ← List.cons_append, ← List.append_assoc, List.getLast?_append_of_ne_nil _ hnone]
      exact hc
    -- a name of white space that begins with no blank makes the scan run out in front of the buffer
    by_cases hspace : key ≠ [] ∧ key.all isspace
    · rw [if_pos hspace, trimWhitespace_eq_none (fun c hc ↦ isspace_of_isblank (hfront c hc))
        (by simpa using hspace.2) hspace.1 hkeyfirst le_rfl (by simp)]
      exact ⟨rfl, rfl, .refl _ rfl⟩
    · obtain ⟨pre, htrim, hpre, hname⟩ := @trimWhitespace_key front _ hkeyfirst hnul.1
        hspace (lead ++ (arg ++ nul :: post))
      rw [if_neg hspace, htrim]
      dsimp only [Option.map_some]
      rw [hname]
      split
      · exact ⟨by decide, rfl, .refl _ rfl⟩
      · have hpre' : (pre ++ lead).length = front.length + key.length + 1 + lead.length := by
          rw [List.length_append, hpre]
        rw [← List.append_assoc, ← hpre']
        exact parseValue_wp hgrants hlt hnone harg harglast
          (fun h ↦ hnul.2.2 (hval ▸ List.mem_append_right _ h)) _ _ _
  · have hsplit : splitAttribute (front ++ (text ++ nul :: post)) front.length =
        some (front ++ (text ++ nul :: post), front.length, none) := by
      have hfind : text.findIdx? (· = 61) = none := by
        rw [List.findIdx?_eq_none_iff]
        exact fun c hc ↦ decide_eq_false fun heq ↦ hmem (heq ▸ hc)
      have hcstr : cstr (text ++ nul :: post) = text := cstr_append_zero hnul post
      rw [splitAttribute, List.drop_left, hcstr, hfind]
    have hverdict : textVerdict text = .refused := if_pos hmem
    rw [hsplit, hverdict]
    exact ⟨by decide, rfl, .refl _ rfl⟩

/-- **What `parse_attribute` does** with a line in the buffer. -/
theorem parseAttribute_wp (hgrants : Granting e) (hlt : w.trace.length < e.limit)
    (line junk : Bytes) :
    wp e (parseAttribute (line ++ nul :: junk)) ((lineVerdict line).Reached w)
      ((lineVerdict line).Faulted w) w := by
  -- only the line up to its first NUL matters
  obtain ⟨post, hbuf⟩ : ∃ post, line ++ nul :: junk = cstr (line ++ nul :: junk) ++ nul :: post :=
    exists_eq_cstr_append (by simp [nul])
  have hnul : nul ∉ cstr line := zero_not_mem_cstr line
  have hcstr : cstr (line ++ nul :: junk) = cstr line := cstr_append_zero' line junk
  rw [hcstr] at hbuf
  rw [hbuf, lineVerdict]
  generalize cstr line = s at hnul ⊢
  have hs : s.takeWhile isblank ++ s.dropWhile isblank = s := List.takeWhile_append_dropWhile
  have hlead : ∀ c ∈ s.takeWhile isblank, isblank c = true := fun c hc ↦
    List.mem_takeWhile_imp hc
  have hfirst : ∀ c ∈ (s.dropWhile isblank).head?, isblank c = false := head?_dropWhile
  generalize s.takeWhile isblank = lead at hs hlead
  generalize s.dropWhile isblank = body at hs hfirst ⊢
  subst hs
  rw [parseAttribute]
  -- a line of blanks: nothing is left, so it is an empty line
  by_cases hblank : body = []
  · have htrim := trimWhitespace_blank hlead [] post
    rw [List.nil_append, List.length_nil, Nat.zero_add] at htrim
    have hempty : cstr ((lead ++ nul :: post).drop lead.length) = [] := by
      rw [List.drop_left]
      rfl
    rw [if_pos hblank, hblank, List.append_nil, htrim]
    dsimp only
    rw [if_pos hempty]
    exact ⟨rfl, rfl, .refl _ rfl⟩
  rw [if_neg hblank]
  -- other white space behind the blanks, and nothing else
  by_cases hspace : body.all isspace
  · have htrim := trimWhitespace_eq_none (fun c hc ↦ isspace_of_isblank (hlead c hc))
      (by simpa using hspace) hblank hfirst (Nat.zero_le _) hlead post
    rw [if_pos hspace, List.append_assoc, htrim]
    exact ⟨rfl, rfl, .refl _ rfl⟩
  · rw [if_neg hspace]
    have hne := rdropWhile_ne_nil (fun h ↦ hspace h.2) hblank
    have hnul' : nul ∉ body.rdropWhile isspace :=
      not_mem_rdropWhile fun h ↦ hnul (List.mem_append_right _ h)
    have hbodyfirst : ∀ c ∈ (body.rdropWhile isspace).head?, isblank c = false := fun c hc ↦
      hfirst c (head?_rdropWhile hne ▸ hc)
    have htrim := trimWhitespace_text hlead hbodyfirst getLast?_rdropWhile hne
      (fun c ↦ List.mem_rtakeWhile_imp (p := isspace) (l := body)) hnul' [] post
    rw [← List.append_assoc (body.rdropWhile isspace), List.rdropWhile_append_rtakeWhile] at htrim
    simp only [List.nil_append, List.length_nil, Nat.zero_add] at htrim
    have hcstr' : cstr ((lead ++ (body.rdropWhile isspace ++
        nul :: (body.rtakeWhile isspace ++ nul :: post).tail)).drop lead.length) ≠ [] := by
      rw [List.drop_left]
      exact (cstr_append_zero hnul' _).trans_ne hne
    rw [List.append_assoc, htrim]
    dsimp only
    rw [if_neg hcstr']
    exact parseText_wp hgrants hlt hlead hbodyfirst getLast?_rdropWhile hnul' _

end FtpServer
