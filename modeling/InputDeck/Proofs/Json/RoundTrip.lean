import InputDeck.Json.Printer
import InputDeck.Json.Reader

/-!
# Reading what was written

The reader inverts the printer on values that are made of strings, arrays and objects. What one
character does is put together to what a string, an item and a member do, whatever is open around
them; the induction over the value then runs through every container. A whole number that fits into
a word has its value back too.
-/

namespace InputDeck.Json

open InputDeck.Text

/-- Reading items one by one gives back the items that they were written from. -/
theorem mapM_map_eq_some {α β : Type} {f : α → β} {g : β → Option α} {items : List α}
    (h : ∀ a ∈ items, g (f a) = some a) : (items.map f).mapM g = some items := by
  induction items with
  | nil => rfl
  | cons a items ih =>
    rw [List.map_cons, List.mapM_cons, h a List.mem_cons_self,
      ih fun b hb => h b (List.mem_cons_of_mem a hb)]
    rfl

def State.run (s : State) (cs : List Char) : Option State :=
  cs.foldlM step s

namespace State

theorem run_cons (s : State) (c : Char) (cs : List Char) :
    s.run (c :: cs) = (step s c).bind (·.run cs) :=
  List.foldlM_cons

theorem run_cons_of_step {s s' : State} {c : Char} (h : step s c = some s') (cs : List Char) :
    s.run (c :: cs) = s'.run cs := by
  rw [run_cons, h]
  rfl

end State

/-! ## Strings -/

def Piece.StandsFor (p : Piece) (c : Char) : Prop :=
  ∀ rest, joinPieces (p :: rest) = (joinPieces rest).map (c :: ·)

theorem standsFor_char (c : Char) : (Piece.char c).StandsFor c := by
  intro rest
  rw [joinPieces]

theorem standsFor_unit {n : Nat} (h : n < 0xd800) : (Piece.unit n).StandsFor (Char.ofNat n) := by
  have hhigh : isHighSurrogate n = false := by
    simp only [isHighSurrogate, Bool.and_eq_false_iff, decide_eq_false_iff_not]
    omega
  have hlow : isLowSurrogate n = false := by
    simp only [isLowSurrogate, Bool.and_eq_false_iff, decide_eq_false_iff_not]
    omega
  intro rest
  match rest with
  | [] => simp [joinPieces, hhigh, hlow]
  | .char c :: rest => simp [joinPieces, hhigh, hlow]
  | .unit m :: rest => rw [joinPieces, hhigh, hlow]; rfl

theorem hexValue?_hexDigit : ∀ n < 16, hexValue? (hexDigit n) = some n := by decide

def Escapes (cs : List Char) (p : Piece) : Prop :=
  ∀ pieces phase rest, State.run ⟨.quoted pieces, phase⟩ (cs ++ rest) =
    State.run ⟨.quoted (p :: pieces), phase⟩ rest

theorem escapes_simple {c d : Char} (hc : c ≠ 'u') (h : simpleEscape? c = some d) :
    Escapes ['\\', c] (.char d) := by
  intro pieces phase rest
  have hstep : step ⟨.escaped pieces, phase⟩ c = some ⟨.quoted (.char d :: pieces), phase⟩ := by
    have hu : (c == 'u') = false := by simpa using hc
    simp [step, hu, h]
  exact (State.run_cons_of_step rfl _).trans (State.run_cons_of_step hstep rest)

theorem escapes_numeric {n : Nat} (h : n < 0x20) :
    Escapes ['\\', 'u', '0', '0', hexDigit (n / 16), hexDigit (n % 16)] (.unit n) := by
  intro pieces phase rest
  have hhigh : step ⟨.hexadecimal pieces 2 0, phase⟩ (hexDigit (n / 16)) =
      some ⟨.hexadecimal pieces 1 (n / 16), phase⟩ := by
    simp [step, hexValue?_hexDigit (n / 16) (by omega)]
  have hlow : step ⟨.hexadecimal pieces 1 (n / 16), phase⟩ (hexDigit (n % 16)) =
      some ⟨.quoted (.unit n :: pieces), phase⟩ := by
    simp [step, hexValue?_hexDigit (n % 16) (by omega), Nat.div_add_mod']
  calc State.run ⟨.quoted pieces, phase⟩ _
      = State.run ⟨.hexadecimal pieces 2 0, phase⟩
          (hexDigit (n / 16) :: hexDigit (n % 16) :: rest) := rfl
    _ = State.run ⟨.quoted (.unit n :: pieces), phase⟩ rest := by
      rw [State.run_cons_of_step hhigh, State.run_cons_of_step hlow]

theorem escapes_plain {c : Char} (hquote : c ≠ '"') (hslash : c ≠ '\\')
    (hcontrol : ¬ c.toNat < 0x20) :
    Escapes [c] (.char c) := by
  intro pieces phase rest
  apply State.run_cons_of_step
  simp [step, hquote, hslash, hcontrol]

theorem exists_escapes_simple {c d e : Char} (h : (c == d) = true) (he : e ≠ 'u')
    (hescape : simpleEscape? e = some d) :
    ∃ p : Piece, p.StandsFor c ∧ Escapes ['\\', e] p := by
  rw [eq_of_beq h]
  exact ⟨.char d, standsFor_char d, escapes_simple he hescape⟩

theorem exists_escapes (c : Char) : ∃ p : Piece, p.StandsFor c ∧ Escapes (escape c) p := by
  rw [escape]
  split
  · next h => exact exists_escapes_simple h (by decide) rfl
  split
  · next h => exact exists_escapes_simple h (by decide) rfl
  split
  · next h => exact exists_escapes_simple h (by decide) rfl
  split
  · next h => exact exists_escapes_simple h (by decide) rfl
  split
  · next h => exact exists_escapes_simple h (by decide) rfl
  split
  · next h => exact exists_escapes_simple h (by decide) rfl
  split
  · next h => exact exists_escapes_simple h (by decide) rfl
  split
  · next h =>
    refine ⟨.unit c.toNat, ?_, escapes_numeric h⟩
    have hunit := standsFor_unit (n := c.toNat) (by omega)
    rwa [Char.ofNat_toNat] at hunit
  · next hquote hslash _ _ _ _ _ hcontrol =>
    exact ⟨.char c, standsFor_char c,
      escapes_plain (by simpa using hquote) (by simpa using hslash) hcontrol⟩

theorem exists_pieces (cs : List Char) :
    ∃ ps, joinPieces ps = some cs ∧ ∀ pieces phase rest,
      State.run ⟨.quoted pieces, phase⟩ (cs.flatMap escape ++ rest) =
        State.run ⟨.quoted (ps.reverse ++ pieces), phase⟩ rest := by
  induction cs with
  | nil => exact ⟨[], rfl, fun _ _ _ => rfl⟩
  | cons c cs ih =>
    obtain ⟨p, hp, hescape⟩ := exists_escapes c
    obtain ⟨ps, hps, hrun⟩ := ih
    refine ⟨p :: ps, ?_, ?_⟩
    · rw [hp, hps]
      rfl
    · intro pieces phase rest
      rw [List.flatMap_cons, List.append_assoc, hescape, hrun, List.reverse_cons,
        List.append_assoc]
      rfl

/-- A quoted string is read as one token. -/
theorem run_quote (s : String) (phase : Phase) (rest : List Char) :
    State.run ⟨.between, phase⟩ (quote s ++ rest) =
      (phase.step (.text (some s))).bind fun phase => State.run ⟨.between, phase⟩ rest := by
  obtain ⟨ps, hps, hrun⟩ := exists_pieces s.toList
  have hopen : step ⟨.between, phase⟩ '"' = some ⟨.quoted [], phase⟩ := rfl
  have hclose : step ⟨.quoted ps.reverse, phase⟩ '"' =
      (phase.step (.text (some s))).map (⟨.between, ·⟩) := by
    have htext : (joinPieces ps.reverse.reverse).map String.ofList = some s := by
      rw [List.reverse_reverse, hps, Option.map_some, String.ofList_toList]
    rw [← htext]
    rfl
  rw [quote, List.cons_append, State.run_cons_of_step hopen, List.append_assoc, hrun,
    List.append_nil, List.singleton_append, State.run_cons, hclose, Option.bind_map]
  rfl

/-! ## Blanks and punctuation -/

theorem run_blanks {w : List Char} (hw : ∀ c ∈ w, isJsonBlank c = true) (phase : Phase)
    (rest : List Char) :
    State.run ⟨.between, phase⟩ (w ++ rest) = State.run ⟨.between, phase⟩ rest := by
  induction w with
  | nil => rfl
  | cons c w ih =>
    have hstep : step ⟨.between, phase⟩ c = some ⟨.between, phase⟩ := by
      rw [step, stepBetween, if_pos (hw c List.mem_cons_self)]
    rw [List.cons_append, State.run_cons_of_step hstep,
      ih fun d hd => hw d (List.mem_cons_of_mem c hd)]

theorem isJsonBlank_of_mem_newline {depth : Nat} {c : Char} (h : c ∈ Layout.newline depth) :
    isJsonBlank c = true := by
  rcases List.mem_cons.1 h with rfl | h
  · rfl
  · rw [List.eq_of_mem_replicate h]
    rfl

theorem run_newline (depth : Nat) (phase : Phase) (rest : List Char) :
    State.run ⟨.between, phase⟩ (Layout.newline depth ++ rest) =
      State.run ⟨.between, phase⟩ rest :=
  run_blanks (fun _ h => isJsonBlank_of_mem_newline h) phase rest

theorem run_punctuation {c : Char} {token : Token} {phase phase' : Phase}
    (hblank : isJsonBlank c = false) (hquote : c ≠ '"') (hc : punctuation? c = some token)
    (hstep : phase.step token = some phase') (rest : List Char) :
    State.run ⟨.between, phase⟩ (c :: rest) = State.run ⟨.between, phase'⟩ rest := by
  apply State.run_cons_of_step
  simp [step, stepBetween, hblank, hquote, hc, hstep]

/-! ## Containers -/

def Phase.Expects (phase : Phase) (frames : List Frame) : Prop :=
  phase = .value frames ∨ ∃ outer, phase = .item outer ∧ frames = .items [] :: outer

theorem Phase.Expects.step {phase : Phase} {frames : List Frame} (h : phase.Expects frames)
    {token : Token} (htoken : token ≠ .closeArray) :
    phase.step token = Phase.beginValue frames token := by
  rcases h with rfl | ⟨outer, rfl, rfl⟩
  · rfl
  · cases token with
    | closeArray => exact absurd rfl htoken
    | _ => rfl

/-- The text is read as the value wherever a value is expected. -/
def Reads (cs : List Char) (v : Json) : Prop :=
  ∀ phase frames, Phase.Expects phase frames → ∀ rest,
    State.run ⟨.between, phase⟩ (cs ++ rest) = State.run ⟨.between, .complete v frames⟩ rest

theorem reads_quote (s : String) : Reads (quote s) (string s) := by
  intro phase frames hphase rest
  rw [run_quote, hphase.step (by simp)]
  rfl

def continued (depth : Nat) (closing : Char) (rest : List Char) : List (List Char) → List Char
  | [] => Layout.newline depth ++ closing :: rest
  | piece :: pieces =>
    ',' :: (Layout.newline (depth + 1) ++ (piece ++ continued depth closing rest pieces))

theorem intercalate_append_closing (depth : Nat) (closing : Char) (rest piece : List Char)
    (pieces : List (List Char)) :
    (',' :: Layout.newline (depth + 1)).intercalate (piece :: pieces) ++
      (Layout.newline depth ++ closing :: rest) = piece ++ continued depth closing rest pieces := by
  induction pieces generalizing piece with
  | nil => rw [List.intercalate_singleton, continued]
  | cons next pieces ih =>
    rw [List.intercalate_cons_cons, List.append_assoc, List.append_assoc, ih, continued]
    rfl

theorem enclose_cons (depth : Nat) (opening closing : Char) (piece : List Char)
    (pieces : List (List Char)) (rest : List Char) :
    Layout.indented.enclose depth opening closing (piece :: pieces) ++ rest =
      opening :: (Layout.newline (depth + 1) ++
        (piece ++ continued depth closing rest pieces)) := by
  rw [Layout.enclose, ← intercalate_append_closing]
  · simp [Layout.indented]
  · simp

/-- The further items of an array, up to its end. -/
theorem run_items {f : Json → List Char} {items : List Json} (h : ∀ v ∈ items, Reads (f v) v)
    (depth : Nat) (v : Json) (done : List Json) (frames : List Frame) (rest : List Char) :
    State.run ⟨.between, .complete v (.items done :: frames)⟩
        (continued depth ']' rest (items.map f)) =
      State.run ⟨.between, .complete (array ((v :: done).reverse ++ items)) frames⟩ rest := by
  induction items generalizing v done with
  | nil =>
    rw [List.map_nil, continued, run_newline, run_punctuation rfl (by decide) rfl rfl,
      List.append_nil]
  | cons w items ih =>
    have hw := h w List.mem_cons_self (.value (.items (v :: done) :: frames)) _ (Or.inl rfl)
    rw [List.map_cons, continued, run_punctuation rfl (by decide) rfl rfl, run_newline, hw,
      ih fun u hu => h u (List.mem_cons_of_mem w hu)]
    simp

theorem reads_array {f : Json → List Char} {items : List Json} (h : ∀ v ∈ items, Reads (f v) v)
    (depth : Nat) : Reads (Layout.indented.enclose depth '[' ']' (items.map f)) (array items) := by
  intro phase frames hphase rest
  have hopen : phase.step .openArray = some (.item frames) := hphase.step (by simp)
  cases items with
  | nil =>
    change State.run _ ('[' :: ']' :: rest) = _
    rw [run_punctuation rfl (by decide) rfl hopen, run_punctuation rfl (by decide) rfl rfl]
  | cons v items =>
    have hv := h v List.mem_cons_self (.item frames) _ (Or.inr ⟨frames, rfl, rfl⟩)
    rw [List.map_cons, enclose_cons, run_punctuation rfl (by decide) rfl hopen, run_newline, hv,
      run_items fun u hu => h u (List.mem_cons_of_mem v hu)]
    rfl

def memberText (f : Json → List Char) (m : String × Json) : List Char :=
  quote m.1 ++ Layout.indented.colon ++ f m.2

def written (m : String × Json) : Written × Json :=
  (some m.1, m.2)

theorem closeObject_written (members : List (String × Json)) :
    closeObject (members.map written).reverse = object members := by
  rw [closeObject, List.reverse_reverse, mapM_map_eq_some]
  intro m _
  rfl

theorem run_member {f : Json → List Char} {m : String × Json} (h : Reads (f m.2) m.2)
    (opened : Bool) (done : List (Written × Json)) (frames : List Frame) (rest : List Char) :
    State.run ⟨.between, .member opened done frames⟩ (memberText f m ++ rest) =
      State.run ⟨.between, .complete m.2 (.members done (some m.1) :: frames)⟩ rest := by
  have hkey : (Phase.member opened done frames).step (.text (some m.1)) =
      some (.colon done (some m.1) frames) := rfl
  have hvalue := h (.value (.members done (some m.1) :: frames)) _ (Or.inl rfl) rest
  rw [memberText, List.append_assoc, List.append_assoc, run_quote, hkey, Option.bind_some,
    ← hvalue]
  have hspace : ∀ c ∈ [' '], isJsonBlank c = true := by
    intro c hc
    rw [List.mem_singleton.1 hc]
    rfl
  change State.run _ (':' :: ([' '] ++ _)) = _
  rw [run_punctuation rfl (by decide) rfl rfl, run_blanks hspace]

/-- The further members of an object, up to its end. -/
theorem run_members {f : Json → List Char} {members : List (String × Json)}
    (h : ∀ m ∈ members, Reads (f m.2) m.2) (depth : Nat) (m : String × Json)
    (before : List (String × Json)) (frames : List Frame) (rest : List Char) :
    State.run ⟨.between, .complete m.2
          (.members (before.map written).reverse (some m.1) :: frames)⟩
        (continued depth '}' rest (members.map (memberText f))) =
      State.run ⟨.between, .complete (object (before ++ m :: members)) frames⟩ rest := by
  have hdone : ∀ before : List (String × Json), ∀ m : String × Json,
      (some m.1, m.2) :: (before.map written).reverse = ((before ++ [m]).map written).reverse := by
    intro before m
    simp [written]
  induction members generalizing m before with
  | nil =>
    rw [List.map_nil, continued, run_newline, run_punctuation rfl (by decide) rfl rfl, hdone,
      closeObject_written]
  | cons next members ih =>
    have hnext := h next List.mem_cons_self
    rw [List.map_cons, continued, run_punctuation rfl (by decide) rfl rfl, run_newline,
      run_member hnext, hdone, ih fun u hu => h u (List.mem_cons_of_mem next hu)]
    simp

theorem reads_object {f : Json → List Char} {members : List (String × Json)}
    (h : ∀ m ∈ members, Reads (f m.2) m.2) (depth : Nat) :
    Reads (Layout.indented.enclose depth '{' '}' (members.map (memberText f)))
      (object members) := by
  intro phase frames hphase rest
  have hopen : phase.step .openObject = some (.member true [] frames) := hphase.step (by simp)
  cases members with
  | nil =>
    change State.run _ ('{' :: '}' :: rest) = _
    rw [run_punctuation rfl (by decide) rfl hopen, run_punctuation rfl (by decide) rfl rfl]
  | cons m members =>
    rw [List.map_cons, enclose_cons, run_punctuation rfl (by decide) rfl hopen, run_newline,
      run_member (h m List.mem_cons_self)]
    exact run_members (fun u hu => h u (List.mem_cons_of_mem m hu)) depth m [] frames rest

/-! ## Values -/

inductive Textual : Json → Prop
  | string (s : String) : Textual (.string s)
  | array {items : List Json} (h : ∀ v ∈ items, Textual v) : Textual (.array items)
  | object {members : List (String × Json)} (h : ∀ m ∈ members, Textual m.2) :
    Textual (.object members)

theorem itemTexts_eq (layout : Layout) (depth : Nat) (items : List Json) :
    itemTexts layout depth items = items.map (renderWith layout depth) := by
  induction items with
  | nil => rfl
  | cons v items ih => exact congrArg (renderWith layout depth v :: ·) ih

theorem memberTexts_eq (depth : Nat) (members : List (String × Json)) :
    memberTexts .indented depth members =
      members.map (memberText (renderWith .indented depth)) := by
  induction members with
  | nil => rfl
  | cons m members ih => exact congrArg (memberText (renderWith .indented depth) m :: ·) ih

theorem renderWith_string (depth : Nat) (s : String) :
    renderWith .indented depth (string s) = quote s :=
  rfl

theorem renderWith_array (depth : Nat) (items : List Json) :
    renderWith .indented depth (array items) =
      Layout.indented.enclose depth '[' ']' (items.map (renderWith .indented (depth + 1))) := by
  rw [← itemTexts_eq]
  rfl

theorem renderWith_object (depth : Nat) (members : List (String × Json)) :
    renderWith .indented depth (object members) =
      Layout.indented.enclose depth '{' '}'
        (members.map (memberText (renderWith .indented (depth + 1)))) := by
  rw [← memberTexts_eq]
  rfl

theorem reads_renderWith {v : Json} (h : Textual v) (depth : Nat) :
    Reads (renderWith .indented depth v) v := by
  induction h generalizing depth with
  | string s =>
    rw [renderWith_string]
    exact reads_quote s
  | array _ ih =>
    rw [renderWith_array]
    exact reads_array (fun v hv => ih v hv (depth + 1)) depth
  | object _ ih =>
    rw [renderWith_object]
    exact reads_object (fun m hm => ih m hm (depth + 1)) depth

/-- Reading gives back what was written. -/
theorem read?_pretty {v : Json} (h : Textual v) : read? v.pretty = some v := by
  have hreads := reads_renderWith h 0 (.value []) [] (Or.inl rfl) []
  rw [List.append_nil] at hreads
  rw [read?, pretty, String.toList_ofList]
  change (State.run _ _).bind finish = _
  rw [hreads]
  rfl

/-! ## Whole numbers -/

namespace Number

theorem le_ofDigitChars (ds : List Char) (s : Nat) : s ≤ Nat.ofDigitChars 10 ds s := by
  induction ds generalizing s with
  | nil => exact Nat.le_refl s
  | cons d ds ih =>
    rw [Nat.ofDigitChars_cons]
    have htail := ih (10 * s + (d.toNat - '0'.toNat))
    omega

/-- As long as the number fits, no digit of it is left out. -/
theorem absorb_eq {ds : List Char} {s : Nat} (h : Nat.ofDigitChars 10 ds s < wordLimit) :
    absorb s ds = (Nat.ofDigitChars 10 ds s, 0) := by
  induction ds generalizing s with
  | nil => rfl
  | cons d ds ih =>
    have hdigit : s * 10 + digitValue d = 10 * s + (d.toNat - '0'.toNat) := by
      rw [Nat.mul_comm, digitValue]
    rw [Nat.ofDigitChars_cons] at h ⊢
    have hnext := Nat.lt_of_le_of_lt (le_ofDigitChars ds _) h
    rw [absorb, hdigit, if_pos hnext, ih h]

theorem integer?_ofNat {n : Nat} (h : n < wordLimit) : (ofNat n).integer? = some (n : Int) := by
  have hdigits : Nat.ofDigitChars 10 (Nat.toDigits 10 n) 0 = n :=
    Nat.ofDigitChars_toDigits (by decide) (by decide)
  have habsorb : absorb 0 (Nat.toDigits 10 n) = (n, 0) := by
    rw [absorb_eq (by rwa [hdigits]), hdigits]
  simp [integer?, ofNat, habsorb]

end Number

end InputDeck.Json
