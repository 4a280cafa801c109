/-
BucketUrl/Json/Lemmas.lean

Reading undoes writing (`read_render`), and what is written stands on one line
(`lineFeed_not_mem_render`).

Each part of the text is read with an arbitrary text behind it: first a character of a string, then
a whole string, then the tokens of a value.  The machine is followed in the same way, with
arbitrary objects around the value and arbitrary tokens behind it.
-/
import BucketUrl.Escape.Lemmas
import BucketUrl.Json.Reader

namespace BucketUrl.Json

variable {c letter : Char} {s : Text}

/-! ### Characters of a string -/

/-- The characters that are escaped by a letter. -/
def lettered : List Char :=
  ['\x22', '\x5c', '\x08', '\x0c', '\n', '\r', '\t']

theorem escapeLetter?_eq_none (h : c ∉ lettered) : escapeLetter? c = none := by
  simp only [lettered, List.mem_cons, List.not_mem_nil, or_false, not_or] at h
  simp [escapeLetter?, h]

/-- The letter behind a backslash stands for the character that it was written for. -/
theorem unescapeLetter?_of_escapeLetter? (h : escapeLetter? c = some letter) :
    unescapeLetter? letter = some c ∧ letter ≠ 'u' ∧ letter ≠ '\n' := by
  have hall : ∀ c ∈ lettered, (escapeLetter? c).bind unescapeLetter? = some c ∧
      escapeLetter? c ≠ some 'u' ∧ escapeLetter? c ≠ some '\n' := by
    decide
  by_cases hc : c ∈ lettered
  · have hc := hall c hc
    rw [h] at hc
    simpa using hc
  · rw [escapeLetter?_eq_none hc] at h
    cases h

/-- The code of a control is read as its number. -/
theorem code?_digitChar : ∀ {n : Nat}, n < 0x20 →
    code? '0' '0' (Nat.digitChar (n / 16)) (Nat.digitChar (n % 16)) = some n := by
  decide

/-- The piece that a character is read as when it was written in a string. -/
def pieceOf (c : Char) : Piece :=
  if escapeLetter? c = none ∧ c.toNat < 0x20 then .unit c.toNat else .char c

/-- A character of a string is read as its piece, whatever follows it. -/
theorem string?_escapeChar_append (c : Char) (s : Text) :
    string? (escapeChar c ++ s) = (string? s).map fun r => (pieceOf c :: r.1, r.2) := by
  rw [escapeChar, pieceOf]
  cases hletter : escapeLetter? c with
  | some letter =>
    obtain ⟨hread, hu, -⟩ := unescapeLetter?_of_escapeLetter? hletter
    show string? ('\x5c' :: letter :: s) = _
    rw [string?.eq_4 letter s fun _ _ _ _ _ h _ => hu h, hread]
    simp
  | none =>
    have hc : c ≠ '\x22' ∧ c ≠ '\x5c' := by
      constructor
      · rintro rfl
        cases hletter
      · rintro rfl
        cases hletter
    by_cases hcontrol : c.toNat < 0x20
    · simp only [hcontrol, if_true, and_self]
      show string? ('\x5c' :: 'u' :: '0' :: '0' :: _ :: _ :: s) = _
      rw [string?, code?_digitChar hcontrol]
      rfl
    · simp only [hcontrol, if_false, and_false]
      show string? (c :: s) = _
      rw [string?.eq_5 c s hc.1 (fun _ _ _ _ _ h _ => hc.2 h) (fun _ _ h _ => hc.2 h),
        if_neg hcontrol]

/-- No control is half of a character. -/
theorem joinPieces_pieceOf_cons (c : Char) (ps : List Piece) :
    joinPieces (pieceOf c :: ps) = (joinPieces ps).map (c :: ·) := by
  rw [pieceOf]
  split
  · next h =>
    have hfirst : ¬IsFirstHalf c.toNat := fun hhalf => absurd hhalf.1 (by omega)
    have hsecond : ¬IsSecondHalf c.toNat := fun hhalf => absurd hhalf.1 (by omega)
    rw [joinPieces.eq_def]
    dsimp only
    rw [if_neg hfirst, if_neg hsecond, Char.ofNat_toNat]
  · rfl

/-! ### Strings -/

/-- A string that was written is read up to its end. -/
theorem string?_flatMap_append (s rest : Text) :
    string? (s.flatMap escapeChar ++ '\x22' :: rest)
      = (tokens? rest).map fun ts => (s.map pieceOf, ts) := by
  induction s with
  | nil => rfl
  | cons c s ih =>
    rw [List.flatMap_cons, List.append_assoc, string?_escapeChar_append, ih, Option.map_map]
    rfl

theorem joinPieces_map_pieceOf (s : Text) : joinPieces (s.map pieceOf) = some s := by
  induction s with
  | nil => rfl
  | cons c s ih =>
    rw [List.map_cons, joinPieces_pieceOf_cons, ih]
    rfl

/-- A string with its quotes is read as one token. -/
theorem tokens?_quote_append (s rest : Text) :
    tokens? (quote s ++ rest) = (tokens? rest).map (.string s :: ·) := by
  have hquote : quote s ++ rest = '\x22' :: (s.flatMap escapeChar ++ '\x22' :: rest) := by
    simp [quote]
  rw [hquote, tokens?, string?_flatMap_append]
  cases tokens? rest with
  | none => rfl
  | some ts =>
    show (joinPieces (s.map pieceOf)).map _ = _
    rw [joinPieces_map_pieceOf]
    rfl

/-! ### Tokens -/

mutual

/-- The tokens of a value. -/
def tokens : Json → List Token
  | .bool b => [.flag b]
  | .string s => [.string s]
  | .object members => .opening :: memberTokens members ++ [.closing]

/-- The tokens of the members of an object, with commas between them. -/
def memberTokens : List (Text × Json) → List Token
  | [] => []
  | [member] => nameTokens member
  | member :: members => nameTokens member ++ .comma :: memberTokens members

/-- The tokens of a name and its value. -/
def nameTokens : Text × Json → List Token
  | (name, j) => .string name :: .colon :: tokens j

end

/-- What is read first from a text are these tokens, whatever follows. -/
def ReadsFirst (s : Text) (ts : List Token) : Prop :=
  ∀ rest, tokens? (s ++ rest) = (tokens? rest).map (ts ++ ·)

theorem ReadsFirst.append {t : Text} {ts us : List Token} (hs : ReadsFirst s ts)
    (ht : ReadsFirst t us) : ReadsFirst (s ++ t) (ts ++ us) := by
  intro rest
  rw [List.append_assoc, hs, ht, Option.map_map]
  congr 1
  funext vs
  exact (List.append_assoc ts us vs).symm

theorem readsFirst_quote (s : Text) : ReadsFirst (quote s) [.string s] :=
  tokens?_quote_append s

theorem readsFirst_opening : ReadsFirst ['\x7b'] [.opening] :=
  tokens?.eq_2

theorem readsFirst_closing : ReadsFirst ['\x7d'] [.closing] :=
  tokens?.eq_3

theorem readsFirst_colon : ReadsFirst [':'] [.colon] :=
  tokens?.eq_4

theorem readsFirst_comma : ReadsFirst [','] [.comma] :=
  tokens?.eq_5

mutual

theorem readsFirst_render : ∀ j : Json, ReadsFirst (render j) (tokens j)
  | .bool true => tokens?.eq_6
  | .bool false => tokens?.eq_7
  | .string s => readsFirst_quote s
  | .object members => by
    rw [render, tokens]
    have hmembers := readsFirst_renderMembers members
    exact readsFirst_opening.append (hmembers.append readsFirst_closing)

theorem readsFirst_renderMembers :
    ∀ members : List (Text × Json), ReadsFirst (renderMembers members) (memberTokens members)
  | [] => fun rest => by simp [renderMembers, memberTokens]
  | [member] => readsFirst_renderMember member
  | member :: next :: members => by
    have hmember := readsFirst_renderMember member
    have hmembers := readsFirst_renderMembers (next :: members)
    exact hmember.append (readsFirst_comma.append hmembers)

theorem readsFirst_renderMember :
    ∀ member : Text × Json, ReadsFirst (renderMember member) (nameTokens member)
  | (name, j) => by
    have hvalue := readsFirst_render j
    exact (readsFirst_quote name).append (readsFirst_colon.append hvalue)

end

theorem memberTokens_cons (member : Text × Json) (members : List (Text × Json)) :
    ∃ ts, memberTokens (member :: members) = .string member.1 :: ts := by
  obtain ⟨name, j⟩ := member
  cases members with
  | nil => exact ⟨_, rfl⟩
  | cons m members => exact ⟨_, rfl⟩

/-! ### The machine -/

namespace Expecting

/-- Tokens are read one after the other. -/
theorem run_append (e : Expecting) (ts us : List Token) :
    e.run (ts ++ us) = (e.run ts).bind (run · us) := by
  induction ts generalizing e with
  | nil => rfl
  | cons t ts ih =>
    rw [List.cons_append, run, run, Option.bind_assoc]
    congr 1
    funext e'
    exact ih e'

mutual

/-- A value is put together from its tokens, whatever objects are open around it. -/
theorem run_tokens :
    ∀ (j : Json) (stack : List OpenObject), (value stack).run (tokens j) = some (behind j stack)
  | .bool _, _ => rfl
  | .string _, _ => rfl
  | .object [], _ => rfl
  | .object (member :: members), stack => by
    have hmembers := run_memberTokens (member :: members) (List.cons_ne_nil _ _) [] stack
    -- an object that does not end at once begins with a name, as behind a comma
    obtain ⟨ts, hts⟩ := memberTokens_cons member members
    rw [hts] at hmembers
    rw [tokens, hts]
    exact hmembers

/-- The members of an object are added to those that were read before them. -/
theorem run_memberTokens : ∀ members : List (Text × Json), members ≠ [] →
    ∀ (before : List (Text × Json)) (stack : List OpenObject),
      (next before stack).run (memberTokens members ++ [.closing])
        = some (behind (.object (before ++ members)) stack)
  | [], hne, _, _ => absurd rfl hne
  | [member], _, before, stack => by
    rw [memberTokens, run_append, run_nameTokens member before stack]
    rfl
  | member :: m :: members, _, before, stack => by
    have hne : m :: members ≠ [] := List.cons_ne_nil _ _
    have hmembers := run_memberTokens (m :: members) hne (before ++ [member]) stack
    rw [List.append_assoc] at hmembers
    rw [memberTokens, List.append_assoc, run_append, run_nameTokens member before stack]
    · exact hmembers
    · exact hne

/-- A name and its value leave the value behind, in an object that waits for it. -/
theorem run_nameTokens :
    ∀ (member : Text × Json) (before : List (Text × Json)) (stack : List OpenObject),
      (next before stack).run (nameTokens member)
        = some (behind member.2 (⟨before, member.1⟩ :: stack))
  | (name, j), before, stack => run_tokens j (⟨before, name⟩ :: stack)

end

end Expecting

/-- Reading undoes writing. -/
theorem read_render (j : Json) : read (render j) = some j := by
  have htokens : tokens? (render j) = some (tokens j) := by
    have h := readsFirst_render j []
    rw [List.append_nil] at h
    rw [h, tokens?, Option.map_some, List.append_nil]
  rw [read, htokens, Option.bind_some, ofTokens?, Expecting.run_tokens]

/-- Blanks and escapes that are not written are read as well. -/
example : tokens? "\x7b \x22a\\u0062\x22 : true \x7d".toList =
    some [.opening, .string ['a', 'b'], .colon, .flag true, .closing] := by
  decide +kernel

/-! ### One line -/

theorem lineFeed_not_mem_escapeChar (c : Char) : '\n' ∉ escapeChar c := by
  have hdigit : ∀ n < 0x20, Nat.digitChar (n / 16) ≠ '\n' ∧ Nat.digitChar (n % 16) ≠ '\n' := by
    decide
  rw [escapeChar]
  cases hletter : escapeLetter? c with
  | some letter =>
    have hne := (unescapeLetter?_of_escapeLetter? hletter).2.2
    simp [hne.symm]
  | none =>
    have hc : c ≠ '\n' := by
      rintro rfl
      cases hletter
    by_cases hcontrol : c.toNat < 0x20
    · obtain ⟨hhigh, hlow⟩ := hdigit c.toNat hcontrol
      simp [hcontrol, escapeCode, hhigh.symm, hlow.symm]
    · simp [hcontrol, hc.symm]

theorem lineFeed_not_mem_quote (s : Text) : '\n' ∉ quote s := by
  simp [quote, lineFeed_not_mem_escapeChar]

mutual

/-- A value is written on one line, whatever is in its strings. -/
theorem lineFeed_not_mem_render : ∀ j : Json, '\n' ∉ render j
  | .bool true => by decide
  | .bool false => by decide
  | .string s => lineFeed_not_mem_quote s
  | .object members => by simp [render, lineFeed_not_mem_renderMembers members]

theorem lineFeed_not_mem_renderMembers :
    ∀ members : List (Text × Json), '\n' ∉ renderMembers members
  | [] => List.not_mem_nil
  | [member] => lineFeed_not_mem_renderMember member
  | member :: m :: members => by
    have hmember := lineFeed_not_mem_renderMember member
    have hmembers := lineFeed_not_mem_renderMembers (m :: members)
    simp [renderMembers, hmember, hmembers]

theorem lineFeed_not_mem_renderMember : ∀ member : Text × Json, '\n' ∉ renderMember member
  | (name, j) => by
    simp [renderMember, lineFeed_not_mem_quote, lineFeed_not_mem_render j]

end

end BucketUrl.Json
