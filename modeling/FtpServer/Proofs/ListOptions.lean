import FtpServer.Model.Ls
import FtpServer.Proofs.Strings

/-!
# The argument of `LIST`

`parse_list_options` against the words of the argument: it drops the words in front that begin with
a `-`, strips what is left of the blanks around it, and sets `opt_a` if one of those words has an
`a` in it (`parseListOptions_parses`).

* `listWords` are the words, with their laws for blanks in front and for one word in front of the
  rest.
* `optionWords` and `listPath` are what the loop is to find: the options, and what is behind them.
* Each round of the loop drops one word from the buffer (`dropWord`), so what is left behind `n`
  rounds is an iterate of it.
-/

namespace FtpServer

open CString Stripping

/-! ### Words -/

/-- The words of an argument: its longest runs without a blank. -/
def listWords (arg : Bytes) : List Bytes := (arg.splitOnP isblank).filter (· ≠ [])

/-- The words in front that begin with a `-`. -/
def optionWords (arg : Bytes) : List Bytes := (listWords arg).takeWhile (·.head? = some minus)

/-- The argument behind its first word. -/
def dropWord (arg : Bytes) : Bytes := (arg.dropWhile isblank).dropWhile (!isblank ·)

/-- The argument without its options and without the blanks around the rest. -/
def listPath (arg : Bytes) : Bytes := strip (dropWord^[(optionWords arg).length] arg)

/-- Blanks in front are no words. -/
theorem listWords_cons_blank {c : UInt8} (hc : isblank c = true) (arg : Bytes) :
    listWords (c :: arg) = listWords arg := by
  rw [listWords, ← List.nil_append (c :: arg), List.splitOnP_append_cons _ _ hc, List.splitOnP_nil]
  simp [listWords]

/-- However many. -/
theorem listWords_dropWhile (arg : Bytes) : listWords (arg.dropWhile isblank) = listWords arg := by
  induction arg with
  | nil => rfl
  | cons c arg ih =>
    by_cases hc : isblank c = true
    · rw [List.dropWhile_cons_of_pos hc, ih, listWords_cons_blank hc]
    · rw [List.dropWhile_cons_of_neg hc]

/-- A word, and what follows it. -/
theorem listWords_append {word rest : Bytes} (hword : ∀ c ∈ word, isblank c = false)
    (hne : word ≠ []) (hrest : ∀ c ∈ rest.head?, isblank c = true) :
    listWords (word ++ rest) = word :: listWords rest := by
  rcases rest with - | ⟨c, rest⟩
  · rw [List.append_nil, listWords, List.splitOnP_eq_singleton hword]
    simp [hne, listWords]
  · have hc : isblank c = true := hrest c rfl
    rw [listWords_cons_blank hc, listWords, List.splitOnP_append_cons _ _ hc,
      List.splitOnP_eq_singleton hword]
    simp [hne, listWords]

/-- A word with a minus in front is an option. -/
theorem optionWords_append {word rest : Bytes} (hword : ∀ c ∈ word, isblank c = false)
    (hrest : ∀ c ∈ rest.head?, isblank c = true) :
    optionWords (minus :: word ++ rest) = (minus :: word) :: optionWords rest := by
  have hword' : ∀ c ∈ minus :: word, isblank c = false :=
    List.forall_mem_cons.2 ⟨by decide, hword⟩
  rw [optionWords, listWords_append hword' (List.cons_ne_nil _ _) hrest, List.takeWhile_cons_of_pos]
  · rfl
  · simp

/-- What does not begin with a `-` has no options. -/
theorem optionWords_eq_nil {arg : Bytes} (hblank : ∀ c ∈ arg.head?, isblank c = false)
    (hminus : arg.head? ≠ some minus) : optionWords arg = [] := by
  have hsplit : arg.takeWhile (!isblank ·) ++ arg.dropWhile (!isblank ·) = arg :=
    List.takeWhile_append_dropWhile
  by_cases hne : arg = []
  · rw [hne]
    rfl
  obtain ⟨c, t, rfl⟩ := List.exists_cons_of_ne_nil hne
  have hc : isblank c = false := hblank c rfl
  have htake : (c :: t).takeWhile (!isblank ·) = c :: t.takeWhile (!isblank ·) :=
    List.takeWhile_cons_of_pos (by simp [hc])
  have hrest : ∀ x ∈ ((c :: t).dropWhile (!isblank ·)).head?, isblank x = true := fun x hx ↦ by
    simpa using head?_dropWhile x hx
  rw [optionWords, ← hsplit, listWords_append (fun x hx ↦ by simpa using List.mem_takeWhile_imp hx)
    (by simp [htake]) hrest, htake, List.takeWhile_cons_of_neg]
  simpa using hminus

/-- A word is dropped with the blanks in front of it. -/
theorem dropWord_dropWhile (arg : Bytes) : dropWord (arg.dropWhile isblank) = dropWord arg := by
  rw [dropWord, dropWord, List.dropWhile_idempotent]

/-- The blanks in front of a word are dropped with it. -/
theorem dropWhile_iterate_dropWord (n : ℕ) (arg : Bytes) :
    (dropWord^[n] (arg.dropWhile isblank)).dropWhile isblank =
      (dropWord^[n] arg).dropWhile isblank := by
  rcases n with - | n
  · exact List.dropWhile_idempotent _ _
  · rw [Function.iterate_succ_apply, Function.iterate_succ_apply, dropWord_dropWhile]

/-- And no more than the word. -/
theorem dropWord_append {word rest : Bytes} (hword : ∀ c ∈ word, isblank c = false)
    (hne : word ≠ []) (hrest : ∀ c ∈ rest.head?, isblank c = true) :
    dropWord (word ++ rest) = rest := by
  obtain ⟨c, word', rfl⟩ := List.exists_cons_of_ne_nil hne
  have hstart : (c :: word' ++ rest).dropWhile isblank = c :: word' ++ rest :=
    List.dropWhile_cons_of_neg (by simp [hword c])
  rw [dropWord, hstart, List.dropWhile_append_of_pos fun x hx ↦ by simp [hword x hx]]
  rcases rest with - | ⟨x, rest⟩
  · rfl
  · exact List.dropWhile_cons_of_neg (by simp [hrest x rfl])

/-! ### The loop -/

/-- A minus starts a word. -/
theorem isblank_minus : isblank minus = false := by decide

/-- One run of option letters. -/
theorem optionWord_eq {word rest : Bytes} (hword : ∀ c ∈ word, isblank c = false)
    (hnul : nul ∉ word) (hrest : ∀ c ∈ rest.head?, isblank c = true) (pre post : Bytes) :
    optionWord (pre ++ (word ++ (rest ++ nul :: post))) pre.length =
      some (pre.length + word.length, word.contains 97) := by
  have hletters : ∀ c ∈ word, (c ≠ nul && !isblank c) = true := fun c hc ↦ by
    have hne : c ≠ nul := fun h ↦ hnul (h ▸ hc)
    simp [hne, hword c hc]
  have hstop : scanForward (fun c ↦ c ≠ nul && !isblank c)
      (pre ++ (word ++ (rest ++ nul :: post))) pre.length = some (pre.length + word.length) := by
    rcases rest with - | ⟨c, rest⟩
    · exact scanForward_append hletters (by simp) pre post
    · exact scanForward_append hletters (by simp [hrest c rfl]) pre (rest ++ nul :: post)
  simp only [optionWord, hstop, Option.bind_eq_bind, Option.bind_some, Option.pure_def,
    List.drop_left, Nat.add_sub_cancel_left, List.take_left]

/-- What the loop over the options skips, and what it finds. -/
theorem listOptionsLoop_eq {fuel : ℕ} {t : Bytes} (hfuel : t.length < fuel)
    (hblank : ∀ c ∈ t.head?, isblank c = false) (hnul : nul ∉ t) (pre post : Bytes) (optA : Bool) :
    ∃ front rest, t = front ++ rest ∧
      rest = (dropWord^[(optionWords t).length] t).dropWhile isblank ∧
      listOptionsLoop (pre ++ (t ++ nul :: post)) fuel pre.length optA =
        some (pre.length + front.length, optA || (optionWords t).any (·.contains 97)) := by
  induction fuel generalizing t pre optA with
  | zero => exact absurd hfuel (Nat.not_lt_zero _)
  | succ fuel ih =>
    have hget : (pre ++ (t ++ nul :: post))[pre.length]? = (t ++ nul :: post).head? := by
      rw [List.getElem?_append_right le_rfl, Nat.sub_self, List.head?_eq_getElem?]
    by_cases hminus : t.head? = some minus
    · obtain ⟨s, rfl⟩ := List.head?_eq_some_iff.1 hminus
      -- the option word, the blanks behind it, and what follows
      have hsplit : s.takeWhile (!isblank ·) ++ s.dropWhile (!isblank ·) = s :=
        List.takeWhile_append_dropWhile
      have hword : ∀ c ∈ s.takeWhile (!isblank ·), isblank c = false := fun c hc ↦ by
        simpa using List.mem_takeWhile_imp hc
      have hrest : ∀ c ∈ (s.dropWhile (!isblank ·)).head?, isblank c = true := fun c hc ↦ by
        simpa using head?_dropWhile c hc
      generalize s.takeWhile (!isblank ·) = word at hsplit hword
      generalize s.dropWhile (!isblank ·) = rest at hsplit hrest
      subst hsplit
      have hgap : rest.takeWhile isblank ++ rest.dropWhile isblank = rest :=
        List.takeWhile_append_dropWhile
      have hgapblank : ∀ c ∈ rest.takeWhile isblank, isblank c = true := fun c hc ↦
        List.mem_takeWhile_imp hc
      have hnext : ∀ c ∈ (rest.dropWhile isblank).head?, isblank c = false := head?_dropWhile
      have hlen : (rest.dropWhile isblank).length ≤ rest.length :=
        (List.dropWhile_sublist _).length_le
      simp only [List.length_cons, List.length_append] at hfuel
      have hnulword : nul ∉ word := fun h ↦ hnul (by simp [h])
      have hnulnext : nul ∉ rest.dropWhile isblank := fun h ↦
        hnul (by simp [(List.dropWhile_sublist _).subset h])
      obtain ⟨front, left, hleft, hrestleft, hloop⟩ := ih (t := rest.dropWhile isblank) (by omega)
        hnext hnulnext (pre ++ [minus] ++ word ++ rest.takeWhile isblank)
        (optA || word.contains 97)
      have hoptions : optionWords (minus :: (word ++ rest)) =
          (minus :: word) :: optionWords (rest.dropWhile isblank) := by
        have hdrop : optionWords (rest.dropWhile isblank) = optionWords rest := by
          rw [optionWords, listWords_dropWhile, ← optionWords]
        rw [hdrop]
        exact optionWords_append hword hrest
      have hdropWord : dropWord (minus :: (word ++ rest)) = rest :=
        @dropWord_append (minus :: word) rest
          (List.forall_mem_cons.2 ⟨isblank_minus, hword⟩) (List.cons_ne_nil _ _) hrest
      have hbuf : pre ++ (minus :: (word ++ rest) ++ nul :: post) =
          pre ++ [minus] ++ word ++ (rest.takeWhile isblank ++
            (rest.dropWhile isblank ++ nul :: post)) := by
        rw [← List.append_assoc (rest.takeWhile isblank), hgap]
        simp
      have hstop : pre.length + 1 + word.length = (pre ++ [minus] ++ word).length := by
        simp
        omega
      have hskip : scanForward isblank (pre ++ (minus :: (word ++ rest) ++ nul :: post))
          (pre.length + 1 + word.length) =
            some (pre ++ [minus] ++ word ++ rest.takeWhile isblank).length := by
        rw [hbuf, hstop, @List.length_append _ (pre ++ [minus] ++ word)]
        rcases hbehind : rest.dropWhile isblank with - | ⟨c, behind⟩
        · exact scanForward_append hgapblank isblank_nul _ post
        · exact scanForward_append hgapblank (hnext c (by rw [hbehind]; rfl)) _ _
      have hone : optionWord (pre ++ (minus :: (word ++ rest) ++ nul :: post)) (pre.length + 1) =
          some (pre.length + 1 + word.length, word.contains 97) := by
        simpa using optionWord_eq hword hnulword hrest (pre ++ [minus]) post
      refine ⟨minus :: word ++ rest.takeWhile isblank ++ front, left, ?_, ?_, ?_⟩
      · rw [List.append_assoc, ← hleft, List.append_assoc, hgap]
        rfl
      · rw [hrestleft, hoptions, List.length_cons, Function.iterate_succ_apply, hdropWord,
          dropWhile_iterate_dropWord]
      · have hat : (pre ++ (minus :: (word ++ rest) ++ nul :: post))[pre.length]? = some minus :=
          hget
        have hcontains : (minus :: word).contains 97 = word.contains 97 := by
          rw [List.contains_cons]
          rfl
        have hlength : (pre ++ [minus] ++ word ++ rest.takeWhile isblank).length + front.length =
            pre.length + (minus :: word ++ rest.takeWhile isblank ++ front).length := by
          simp
          omega
        rw [listOptionsLoop, hat]
        simp only [if_pos, hone, hskip, Option.bind_eq_bind, Option.bind_some]
        rw [hbuf, ← List.append_assoc, hloop, hlength, hoptions, List.any_cons, hcontains,
          Bool.or_assoc]
    · refine ⟨[], t, rfl, ?_, ?_⟩
      · rw [optionWords_eq_nil hblank hminus]
        rcases t with - | ⟨c, t⟩
        · rfl
        · exact (List.dropWhile_cons_of_neg (by simp [hblank c rfl])).symm
      · rw [optionWords_eq_nil hblank hminus, listOptionsLoop, hget]
        rcases t with - | ⟨c, t⟩
        · have hne : nul ≠ minus := by decide
          simp [hne]
        · have hc : c ≠ minus := fun h ↦ hminus (h ▸ rfl)
          simp [hc]

/-! ### The function -/

/-- What `parse_list_options` is to do with an argument, whatever is stored in front of it and
behind it: it edits nothing but the argument, returns the path in it, and tells whether an option
has an `a` in it. -/
def ParsesOptions (arg : Bytes) : Prop :=
  ∃ (edited : Bytes) (k : ℕ), edited.length = arg.length + 1 ∧ ∀ pre post,
    parseListOptions (pre ++ (arg ++ nul :: post)) pre.length =
        some (pre ++ (edited ++ post), pre.length + k, (optionWords arg).any (·.contains 97)) ∧
      cstr ((pre ++ (edited ++ post)).drop (pre.length + k)) = listPath arg

/-- Blanks in front are no options. -/
theorem optionWords_dropWhile (arg : Bytes) :
    optionWords (arg.dropWhile isblank) = optionWords arg := by
  rw [optionWords, listWords_dropWhile, optionWords]

/-- Where every white space is a blank, the rest is trimmed as it is stripped. -/
theorem trimmed_eq_strip {s : Bytes} (h : ∀ c ∈ s, isspace c = true → isblank c = true) :
    trimmed s = strip s := by
  refine rdropWhile_congr fun c hc ↦ Bool.eq_iff_iff.2 ⟨?_, isspace_of_isblank⟩
  exact h c ((List.dropWhile_sublist _).subset hc)

/-- **What `parse_list_options` makes of an argument** without other white space than blanks. -/
theorem parseListOptions_parses {arg : Bytes} (hnul : nul ∉ arg)
    (hplain : ∀ c ∈ arg, isspace c = true → isblank c = true) : ParsesOptions arg := by
  have hsplit : arg.takeWhile isblank ++ arg.dropWhile isblank = arg :=
    List.takeWhile_append_dropWhile
  have hlead : ∀ c ∈ arg.takeWhile isblank, isblank c = true := fun c hc ↦
    List.mem_takeWhile_imp hc
  have hblank : ∀ c ∈ (arg.dropWhile isblank).head?, isblank c = false := head?_dropWhile
  have htext : nul ∉ arg.dropWhile isblank := fun h ↦ hnul ((List.dropWhile_sublist _).subset h)
  have hcut : ∀ pre post, ∃ front rest, arg.dropWhile isblank = front ++ rest ∧
      rest = (dropWord^[(optionWords arg).length] arg).dropWhile isblank ∧
      listOptionsLoop (pre ++ (arg ++ nul :: post)) ((pre ++ (arg ++ nul :: post)).length + 1)
        (pre.length + (arg.takeWhile isblank).length) false =
          some (pre.length + (arg.takeWhile isblank).length + front.length,
            (optionWords arg).any (·.contains 97)) := by
    intro pre post
    have hfuel : (arg.dropWhile isblank).length < (pre ++ (arg ++ nul :: post)).length + 1 := by
      have hle := (List.dropWhile_sublist isblank (l := arg)).length_le
      simp
      omega
    obtain ⟨front, rest, hfront, hrest, hloop⟩ := listOptionsLoop_eq hfuel hblank htext
      (pre ++ arg.takeWhile isblank) post false
    rw [optionWords_dropWhile, dropWhile_iterate_dropWord] at hrest
    refine ⟨front, rest, hfront, hrest, ?_⟩
    have hbuf : pre ++ arg.takeWhile isblank ++ (arg.dropWhile isblank ++ nul :: post) =
        pre ++ (arg ++ nul :: post) := by
      rw [List.append_assoc, ← List.append_assoc (arg.takeWhile isblank), hsplit]
    have hlength : (pre ++ arg.takeWhile isblank).length =
        pre.length + (arg.takeWhile isblank).length := List.length_append
    rwa [hbuf, hlength, optionWords_dropWhile, Bool.false_or] at hloop
  obtain ⟨front, rest, hfront, hrest, -⟩ := hcut [] []
  have harg : arg = arg.takeWhile isblank ++ front ++ rest := by
    rw [List.append_assoc, ← hfront, hsplit]
  have hrestmem : ∀ c ∈ rest, c ∈ arg := fun c hc ↦ by
    rw [harg]
    exact List.mem_append_right _ hc
  have hrestplain : ∀ c ∈ rest, isspace c = true → isblank c = true := fun c hc ↦
    hplain c (hrestmem c hc)
  -- the rest is empty, or begins with a character that is no white space
  have hcase : (∀ c ∈ rest, isblank c = true) ∨ ∃ c ∈ rest, isspace c = false := by
    by_cases h : ∃ c ∈ rest, isspace c = false
    · exact .inr h
    · refine .inl fun c hc ↦ hrestplain c hc ?_
      by_contra hne
      exact h ⟨c, hc, by simpa using hne⟩
  obtain ⟨edited, k, hlength, htrims⟩ :=
    (trimWhitespace_trims fun h ↦ hnul (hrestmem _ h)).2 hcase
  have hpath : trimmed rest = listPath arg := by
    rw [trimmed_eq_strip hrestplain, listPath, strip, strip, hrest, List.dropWhile_idempotent]
  refine ⟨arg.takeWhile isblank ++ front ++ edited,
    (arg.takeWhile isblank ++ front).length + k, ?_, fun pre post ↦ ?_⟩
  · conv_rhs => rw [harg]
    simp only [List.length_append, hlength]
    omega
  · have hstart : scanForward isblank (pre ++ (arg ++ nul :: post)) pre.length =
        some (pre.length + (arg.takeWhile isblank).length) := by
      rcases hbehind : arg.dropWhile isblank with - | ⟨c, behind⟩
      · have h := scanForward_append hlead isblank_nul pre post
        rwa [List.takeWhile_eq_self_iff.2 (List.dropWhile_eq_nil_iff.1 hbehind)] at h ⊢
      · have h := scanForward_append hlead (hblank c (by rw [hbehind]; rfl)) pre
          (behind ++ nul :: post)
        rwa [← List.cons_append, ← hbehind, ← List.append_assoc (arg.takeWhile isblank), hsplit]
          at h
    obtain ⟨front', rest', hfront', hrest', hloop⟩ := hcut pre post
    obtain rfl : front' = front :=
      List.append_cancel_right (hfront'.symm.trans (by rw [hfront, hrest', hrest]))
    obtain ⟨htrim, hshows, -⟩ := htrims (pre ++ (arg.takeWhile isblank ++ front')) post
    have hbuf : pre ++ (arg.takeWhile isblank ++ front') ++ (rest ++ nul :: post) =
        pre ++ (arg ++ nul :: post) := by
      conv_rhs => rw [harg]
      simp
    have hindex : (pre ++ (arg.takeWhile isblank ++ front')).length =
        pre.length + (arg.takeWhile isblank).length + front'.length := by
      rw [List.length_append, List.length_append, Nat.add_assoc]
    have hedited : pre ++ (arg.takeWhile isblank ++ front') ++ (edited ++ post) =
        pre ++ (arg.takeWhile isblank ++ front' ++ edited ++ post) := by simp
    have hend : pre.length + (arg.takeWhile isblank).length + front'.length + k =
        pre.length + ((arg.takeWhile isblank ++ front').length + k) := by
      rw [List.length_append]
      omega
    rw [hbuf, hindex, hedited, hend] at htrim
    rw [hindex, hedited, hend, hpath] at hshows
    refine ⟨?_, hshows⟩
    simp only [parseListOptions, hstart, hloop, htrim, Option.bind_eq_bind, Option.bind_some,
      Option.pure_def]

/-- Two option words in front of a path. -/
theorem parseListOptions_parses_options : ParsesOptions (ofString "-a  -rd pub ") :=
  parseListOptions_parses (by decide +kernel) (by decide +kernel)

end FtpServer
