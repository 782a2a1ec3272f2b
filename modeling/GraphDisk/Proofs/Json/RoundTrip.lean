import Mathlib.Data.List.Forall2
import GraphDisk.Json.Printer
import GraphDisk.Json.Reader
import GraphDisk.Proofs.Text.Digits

/-!
# Reading what was printed

The reader gives back what the printer was given. A quoted text has no character that the reader would take for the
closing quote, and every escape stands for the character it was made from (`Reader.quoted_printed`). A number is printed
without a zero in front and ends where no digit follows (`Value.ReadAs.natural`). For the containers it is enough that
their parts are read back whatever follows them (`Value.ReadAs.object`): the fuel is the length of the text, and each
member has a text of its own.
-/

namespace GraphDisk.Json

open Reader (Piece)

/-! ## Texts -/

namespace Reader

variable {c : Char} {cs rest : List Char}

/-- The two digits of an escaped control character. -/
theorem unit?_hexDigit : ∀ n < 32,
    unit? '0' '0' (Printer.hexDigit (n / 16)) (Printer.hexDigit (n % 16)) = some (.char (Char.ofNat n)) := by
  decide

/-- A character that is not escaped. -/
theorem pieces_plain (hquote : c ≠ '"') (hbackslash : c ≠ '\\') (hcontrol : ¬c < ' ') :
    pieces (c :: cs) = (pieces cs).map fun (ps, rest) => (.char c :: ps, rest) := by
  rw [pieces.eq_def]
  split
  · contradiction
  · rename_i heq
    cases heq
    exact absurd rfl hquote
  · rename_i heq
    cases heq
    exact absurd rfl hbackslash
  · rename_i heq
    cases heq
    exact absurd rfl hbackslash
  · rename_i heq
    cases heq
    rw [if_neg (by simp [hcontrol, hbackslash])]
    cases pieces cs <;> rfl

theorem pieces_unit {a b d e : Char} (h : unit? a b d e = some (.char c)) :
    pieces ('\\' :: 'u' :: a :: b :: d :: e :: cs) = (pieces cs).map fun (ps, rest) => (.char c :: ps, rest) := by
  rw [pieces, h]
  cases pieces cs <;> rfl

/-- **Every escape stands for its character.** -/
theorem pieces_escape (c : Char) (cs : List Char) :
    pieces (Printer.escape c ++ cs) = (pieces cs).map fun (ps, rest) => (.char c :: ps, rest) := by
  unfold Printer.escape
  split
  case h_8 hquote hbackslash _ _ _ _ _ =>
    split
    · rename_i hcontrol
      have hn : c.toNat < 32 := hcontrol
      refine pieces_unit ?_
      rw [unit?_hexDigit c.toNat hn, Char.ofNat_toNat]
    · rename_i hcontrol
      exact pieces_plain hquote hbackslash hcontrol
  all_goals
    simp only [List.cons_append, List.nil_append]
    rw [pieces]
    · simp only [shortEscape?, Option.bind_eq_bind, Option.bind_some]
      cases pieces cs <;> rfl
    · simp

/-- The pieces of a printed text are its characters. -/
theorem pieces_printed : ∀ cs : List Char,
    pieces (cs.flatMap Printer.escape ++ '"' :: rest) = some (cs.map .char, rest)
  | [] => rfl
  | c :: cs => by
    rw [List.flatMap_cons, List.append_assoc, pieces_escape, pieces_printed cs]
    rfl

theorem join?_map_char : ∀ cs : List Char, join? (cs.map .char) = some cs
  | [] => rfl
  | c :: cs => by
    rw [List.map_cons, join?, join?_map_char cs]
    rfl

/-- **A printed text is read back.** -/
theorem quoted_printed (s : String) :
    quoted (s.toList.flatMap Printer.escape ++ '"' :: rest) = some (some s, rest) := by
  rw [quoted, pieces_printed, Option.map_some]
  simp only [join?_map_char, Option.map_some, String.ofList_toList]

end Reader

/-! ## Numbers -/

/-- A whole number as it is printed. -/
def Numeral.ofNat (n : Nat) : Numeral := ⟨false, (Nat.toDigits 10 n).map fun c => c.toNat - 48, [], none⟩

/-- The number that a printed number stands for. -/
theorem Numeral.number?_ofNat (n : UInt64) : (Numeral.ofNat n.toNat).number? = some (.natural n) := by
  have hvalue : Numeral.valueOf (Numeral.ofNat n.toNat).whole = n.toNat := by
    rw [Numeral.ofNat, Numeral.valueOf, List.foldl_map]
    exact Nat.ofDigitChars_ten_toDigits
  have hsize : n.toNat < UInt64.size := n.toNat_lt
  unfold Numeral.number?
  simp only [hvalue]
  rw [if_pos ⟨rfl, Bool.false_ne_true, hsize⟩, Nat.toUInt64_eq, UInt64.ofNat_toNat]

/-- **What may follow a value**: the end, a comma or a closing bracket. -/
def Delimited (rest : List Char) : Prop := ∀ c ∈ rest.head?, c = ',' ∨ c = ']' ∨ c = '\x7d'

namespace Reader

variable {c : Char} {ds rest : List Char}

theorem digit?_of_isDigit (h : c.isDigit = true) : digit? c = some (c.toNat - 48) := by
  simp only [Char.isDigit, Bool.and_eq_true, decide_eq_true_eq] at h
  exact if_pos h

theorem digits_delimited (h : Delimited rest) : digits rest = ([], rest) := by
  cases rest with
  | nil => rfl
  | cons c cs => rcases h c rfl with rfl | rfl | rfl <;> rfl

theorem fraction_delimited (h : Delimited rest) : fraction rest = some ([], rest) := by
  cases rest with
  | nil => rfl
  | cons c cs => rcases h c rfl with rfl | rfl | rfl <;> rfl

theorem exponent_delimited (h : Delimited rest) : exponent rest = some (none, rest) := by
  cases rest with
  | nil => rfl
  | cons c cs => rcases h c rfl with rfl | rfl | rfl <;> rfl

theorem digits_append (hrest : Delimited rest) : ∀ {ds : List Char}, Digits ds →
    digits (ds ++ rest) = (ds.map fun c => c.toNat - 48, rest)
  | [], _ => digits_delimited hrest
  | c :: ds, h => by
    rw [List.cons_append, digits, digit?_of_isDigit (h c List.mem_cons_self), digits_append hrest h.tail]
    rfl

theorem whole_printed (n : Nat) (hrest : Delimited rest) :
    whole (Nat.toDigits 10 n ++ rest) = some ((Nat.toDigits 10 n).map fun c => c.toNat - 48, rest) := by
  rw [whole, someDigits, digits_append hrest (digits_toDigits n)]
  have hdigits := digits_toDigits n
  have hzero := toDigits_ne_zero_cons n
  cases hds : Nat.toDigits 10 n with
  | nil => exact absurd hds Nat.toDigits_ne_nil
  | cons c ds =>
    rw [hds] at hdigits hzero
    cases ds with
    | nil =>
      simp only [List.map_cons, List.map_nil]
      cases c.toNat - 48 <;> rfl
    | cons d ds =>
      have hhead := hdigits.head
      have hne : c.toNat ≠ 48 := fun h => hzero d ds (by rw [show c = '0' from Char.toNat_inj.mp h])
      have hpos : c.toNat - 48 ≠ 0 := by omega
      simp only [List.map_cons]
      split
      · rename_i heq
        simp only [Option.some.injEq, Prod.mk.injEq, List.cons.injEq] at heq
        exact absurd heq.1.1 hpos
      · rfl

/-- **A printed whole number is read back** where no digit follows. -/
theorem unsigned_printed (n : Nat) (hrest : Delimited rest) :
    unsigned false (Nat.toDigits 10 n ++ rest) = some (Numeral.ofNat n, rest) := by
  simp [unsigned, whole_printed n hrest, fraction_delimited hrest, exponent_delimited hrest, Numeral.ofNat]

theorem numeral_of_isDigit (h : c.isDigit = true) : numeral (c :: ds) = unsigned false (c :: ds) := by
  unfold numeral
  split
  · rename_i heq
    cases heq
    exact absurd h (by decide)
  · rfl

theorem skipBlanks_of_isDigit (h : c.isDigit = true) : skipBlanks (c :: ds) = c :: ds := by
  refine List.dropWhile_cons_of_neg fun hblank => ?_
  simp only [isBlank, Bool.or_eq_true, beq_iff_eq] at hblank
  rcases hblank with ((rfl | rfl) | rfl) | rfl <;> exact absurd h (by decide)

/-- Only a number starts with a digit. -/
theorem value_of_isDigit {fuel : Nat} (h : c.isDigit = true) :
    value (fuel + 1) (c :: ds) = (unsigned false (c :: ds)).map fun (n, rest) => (.number n, rest) := by
  rw [value, skipBlanks_of_isDigit h, ← numeral_of_isDigit h]
  split
  case h_7 => rfl
  all_goals
    rename_i heq
    cases heq
    exact absurd h (by decide)

end Reader

/-! ## Values -/

/-- **A printed value is read as a tree**, whatever follows it, with as much fuel as its text is long. -/
def Value.ReadAs (v : Value) (d : Document) : Prop :=
  ∀ fuel rest, (Printer.value v).length ≤ fuel → Delimited rest →
    Reader.value fuel (Printer.value v ++ rest) = some (d, rest)

namespace Value.ReadAs

theorem bool (b : Bool) : ReadAs (.bool b) (.bool b) := by
  rintro (_ | fuel) rest hfuel -
  · cases b <;> cases hfuel
  · cases b <;> rfl

theorem string (s : String) : ReadAs (.string s) (.string (some s)) := by
  rintro (_ | fuel) rest hfuel -
  · cases hfuel
  · have hskip : Reader.skipBlanks (Printer.value (.string s) ++ rest) =
        '"' :: (s.toList.flatMap Printer.escape ++ '"' :: rest) := by
      simp [Printer.value, Printer.quoted, Reader.skipBlanks, Reader.isBlank]
    rw [Reader.value, hskip]
    simp only [Reader.quoted_printed, Option.map_some]

theorem natural (n : UInt64) : ReadAs (.number (.natural n)) (.number (Numeral.ofNat n.toNat)) := by
  intro fuel rest hfuel hrest
  simp only [Printer.value, Printer.number, Printer.natural] at hfuel ⊢
  have hread := Reader.unsigned_printed n.toNat hrest
  have hdigits := digits_toDigits n.toNat
  cases hds : Nat.toDigits 10 n.toNat with
  | nil => exact absurd hds Nat.toDigits_ne_nil
  | cons c ds =>
    rw [hds] at hfuel hread hdigits
    cases fuel with
    | zero => cases hfuel
    | succ fuel =>
      rw [List.cons_append, Reader.value_of_isDigit (hdigits c List.mem_cons_self), ← List.cons_append, hread]
      rfl

end Value.ReadAs

/-- **A member is read as a member** of the same name. -/
def MemberReadAs (m : String × Value) (e : Spelling × Document) : Prop := e.1 = some m.1 ∧ m.2.ReadAs e.2

theorem delimited_members (ms : List (String × Value)) (rest : List Char) : Delimited (Printer.members ms ++ rest) := by
  intro c hc
  cases ms with
  | nil => exact Or.inr (Or.inr (Option.some.inj hc).symm)
  | cons m ms => exact Or.inl (Option.some.inj hc).symm

namespace Reader

variable {k : String} {v : Value} {d : Document} {fuel : Nat} {tail rest : List Char}

/-- Reading a member leaves what follows it. -/
theorem members_member (hv : v.ReadAs d) (hfuel : (Printer.value v).length ≤ fuel) (htail : Delimited tail) :
    members (fuel + 1) (Printer.quoted k ++ ':' :: Printer.value v ++ tail) =
      match skipBlanks tail with
      | '\x7d' :: rest => some ([(some k, d)], rest)
      | ',' :: cs => (members fuel cs).map fun (es, rest) => ((some k, d) :: es, rest)
      | _ => none := by
  have hquote : skipBlanks (Printer.quoted k ++ ':' :: Printer.value v ++ tail) =
      '"' :: (k.toList.flatMap Printer.escape ++ '"' :: ':' :: (Printer.value v ++ tail)) := by
    simp [Printer.quoted, skipBlanks, isBlank]
  have hcolon : skipBlanks (':' :: (Printer.value v ++ tail)) = ':' :: (Printer.value v ++ tail) := rfl
  rw [members, hquote]
  simp only [quoted_printed, Option.bind_eq_bind, Option.bind_some, hcolon, hv fuel tail hfuel htail]
  -- what follows the value decides in both readings alike
  generalize skipBlanks tail = cs
  split
  · rfl
  · rename_i cs
    change _ = (members fuel cs).map fun (es, rest) => ((some k, d) :: es, rest)
    cases members fuel cs <;> rfl
  · simp [*]

/-- The members of a printed object are read back. -/
theorem members_printed {ms : List (String × Value)} {es : List (Spelling × Document)}
    (h : List.Forall₂ MemberReadAs ms es) : ∀ {fuel : Nat} {k : String} {v : Value} {d : Document}, v.ReadAs d →
      (Printer.quoted k ++ ':' :: Printer.value v ++ Printer.members ms).length ≤ fuel →
      members fuel (Printer.quoted k ++ ':' :: Printer.value v ++ (Printer.members ms ++ rest)) =
        some ((some k, d) :: es, rest) := by
  -- the text that is left pays for the fuel: each member takes its quotes, its colon and what follows its value
  induction h with
  | nil =>
    rintro (_ | fuel) k v d hv hfuel
    · simp [Printer.quoted] at hfuel
    · have hlength : (Printer.value v).length ≤ fuel := by
        simp [Printer.quoted] at hfuel
        omega
      rw [members_member hv hlength (delimited_members [] rest)]
      rfl
  | @cons m e ms es hm _ ih =>
    rintro (_ | fuel) k v d hv hfuel
    · simp [Printer.quoted] at hfuel
    · obtain ⟨k', v'⟩ := m
      obtain ⟨key, d'⟩ := e
      obtain ⟨rfl, hv'⟩ : key = some k' ∧ v'.ReadAs d' := hm
      rw [Printer.members] at hfuel
      have hlength : (Printer.value v).length ≤ fuel := by
        simp [Printer.quoted] at hfuel
        omega
      have hrest : (Printer.quoted k' ++ ':' :: Printer.value v' ++ Printer.members ms).length ≤ fuel := by
        simp [Printer.quoted] at hfuel ⊢
        omega
      have hcomma : skipBlanks (Printer.members ((k', v') :: ms) ++ rest) =
          ',' :: (Printer.quoted k' ++ ':' :: Printer.value v' ++ (Printer.members ms ++ rest)) := by
        simp [Printer.members, skipBlanks, isBlank]
      rw [members_member hv hlength (delimited_members _ rest), hcomma]
      simp only [ih hv' hrest, Option.map_some]

end Reader

/-- **An object is read back** if its members are. -/
theorem Value.ReadAs.object {ms : List (String × Value)} {es : List (Spelling × Document)}
    (h : List.Forall₂ MemberReadAs ms es) : ReadAs (.object ms) (.object es) := by
  rintro (_ | fuel) rest hfuel -
  · cases h <;> simp [Printer.value] at hfuel
  cases h with
  | nil => rfl
  | @cons m e ms es hm hms =>
    obtain ⟨k, v⟩ := m
    obtain ⟨key, d⟩ := e
    obtain ⟨rfl, hv⟩ : key = some k ∧ v.ReadAs d := hm
    have hlength : (Printer.quoted k ++ ':' :: Printer.value v ++ Printer.members ms).length ≤ fuel := by
      simpa [Printer.value] using hfuel
    have hbrace : Reader.skipBlanks (Printer.value (.object ((k, v) :: ms)) ++ rest) =
        '\x7b' :: (Printer.quoted k ++ ':' :: Printer.value v ++ (Printer.members ms ++ rest)) := by
      simp [Printer.value, Reader.skipBlanks, Reader.isBlank]
    have hquote : Reader.skipBlanks (Printer.quoted k ++ ':' :: Printer.value v ++ (Printer.members ms ++ rest)) =
        Printer.quoted k ++ ':' :: Printer.value v ++ (Printer.members ms ++ rest) := by
      simp [Printer.quoted, Reader.skipBlanks, Reader.isBlank]
    rw [Reader.value, hbrace]
    simp only [hquote]
    split
    · rename_i heq
      cases heq
    · rw [Reader.members_printed hms hv hlength]
      rfl

/-- **The text of a value is read as its tree.** -/
theorem Value.ReadAs.parse? {v : Value} {d : Document} (h : v.ReadAs d) : Document.parse? v.text = some d := by
  have hread := h ((Printer.value v).length + 1) [] (Nat.le_succ _) (by simp [Delimited])
  rw [List.append_nil] at hread
  simp [Document.parse?, Value.text, hread, Reader.skipBlanks]

end GraphDisk.Json
