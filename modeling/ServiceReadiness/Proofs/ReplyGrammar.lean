/-
# Which bytes are a reply

A reply is some interim heads, a final head and a body, which may break off.  A head is a line
of status, lines of header fields and an empty line, with empty lines in front of it or without;
a line ends with a line feed, with a carriage return before it or without (`AreLines`, `IsHead`).
The reader of heads takes the bytes one by one and keeps the line under way.  It gives lines only
for bytes that are these lines with their ends (`exists_areLines_of_splitLines`), and it gives the
lines of a head back, since neither a status line nor a field has a byte that ends a line
(`splitLines_of_areLines`).

A final head must also say where its body ends, and say it once (`IsFramed`).  Every head takes a
byte at least, so there are never too many interim ones to be read.  So the status that is read
from bytes is the one of the reply that they are (`Response.read_iff_isReply`), and it may be any
status that is not interim (`exists_isReply`).
-/

import Mathlib.Data.List.Basic
import Mathlib.Data.List.Forall2
import Mathlib.Data.List.TakeWhile
import ServiceReadiness.Http.Response
import ServiceReadiness.Proofs.Numerals
import ServiceReadiness.Proofs.WrittenProbes

namespace ServiceReadiness
namespace Http

/-- What a function gives for every element of a list is what the elements stand for. -/
theorem mapM_eq_some_iff {α β : Type} {f : α → Option β} {r : α → β → Prop}
    (h : ∀ a b, f a = some b ↔ r a b) {l : List α} {m : List β} :
    l.mapM f = some m ↔ List.Forall₂ r l m := by
  induction l generalizing m with
  | nil =>
    rw [List.mapM_nil, List.forall₂_nil_left_iff]
    exact ⟨fun h => (Option.some.inj h).symm, fun h => congrArg some h.symm⟩
  | cons a l ih =>
    simp only [List.mapM_cons, bind, pure, Option.bind_eq_some_iff, Option.some_inj, h, ih,
      List.forall₂_cons_left_iff]
    constructor
    · rintro ⟨b, hb, more, hmore, rfl⟩
      exact ⟨b, more, hb, hmore, rfl⟩
    · rintro ⟨b, more, hb, hmore, rfl⟩
      exact ⟨b, hb, more, hmore, rfl⟩

/-- What stands for the same all the time is what every element stands for. -/
theorem forall_of_forall₂ {α β : Type} {r : α → β → Prop} {l : List α} {m : List β} {b : β}
    (h : List.Forall₂ r l m) (hsame : ∀ c ∈ m, c = b) : ∀ a ∈ l, r a b := by
  induction h with
  | nil => exact List.forall_mem_nil _
  | cons ha _ ih =>
    obtain ⟨rfl, hmore⟩ := List.forall_mem_cons.1 hsame
    exact List.forall_mem_cons.2 ⟨ha, ih hmore⟩

/-! ### Lines -/

/-- What ends a line: a line feed, with a carriage return before it or without. -/
def IsLineEnd (bytes : List UInt8) : Prop := bytes = [10] ∨ bytes = [13, 10]

/-- Lines, each with its end. -/
inductive AreLines : List (List UInt8) → List UInt8 → Prop
  | nil : AreLines [] []
  | cons {line ending : List UInt8} {more : List (List UInt8)} {bytes : List UInt8} :
      IsLineEnd ending → AreLines more bytes → AreLines (line :: more) (line ++ ending ++ bytes)

/-- Bytes that a phrase or the value of a field may have. -/
def IsText (bytes : List UInt8) : Prop := ∀ b ∈ bytes, Head.isFieldByte b = true

namespace Head

/-- A text has no byte that ends a line. -/
theorem ne_of_isFieldByte {b : UInt8} (h : isFieldByte b = true) : b ≠ 10 ∧ b ≠ 13 := by
  constructor <;> rintro rfl <;> cases h

/-- The reader keeps the bytes of a line under way, last byte first. -/
theorem splitLines_append {bytes : List UInt8} (h : IsText bytes) (line rest : List UInt8) :
    splitLines line (bytes ++ rest) = splitLines (bytes.reverse ++ line) rest := by
  induction bytes generalizing line with
  | nil => rfl
  | cons b bytes ih =>
    obtain ⟨hb, hbytes⟩ := List.forall_mem_cons.1 h
    rw [List.cons_append, splitLines, if_neg (ne_of_isFieldByte hb).1, ih hbytes,
      List.reverse_cons, List.append_assoc, List.singleton_append]

/-- A carriage return is taken off the end of a line. -/
theorem chomp_cons_reverse (line : List UInt8) : chomp (13 :: line.reverse) = line :=
  List.reverse_reverse line

theorem chomp_reverse {line : List UInt8} (h : IsText line) : chomp line.reverse = line := by
  rw [chomp, List.reverse_reverse]
  intro more hmore
  have hmem : 13 ∈ line := List.mem_reverse.1 (hmore ▸ List.mem_cons_self)
  exact (ne_of_isFieldByte (h 13 hmem)).2 rfl

/-- **A line that has ended is given** without its end, unless it is empty. -/
theorem splitLines_line {line ending : List UInt8} (hline : IsText line) (hne : line ≠ [])
    (hending : IsLineEnd ending) (rest : List UInt8) :
    splitLines [] (line ++ ending ++ rest) =
      (splitLines [] rest).map fun (lines, rest) => (line :: lines, rest) := by
  obtain ⟨first, more, rfl⟩ := List.exists_cons_of_ne_nil hne
  rw [List.append_assoc, splitLines_append hline, List.append_nil]
  rcases hending with rfl | rfl
  · rw [List.singleton_append, splitLines, if_pos rfl, chomp_reverse hline]
  · rw [List.cons_append, splitLines, if_neg (by decide), List.singleton_append, splitLines,
      if_pos rfl, chomp_cons_reverse]

/-- The empty line is the last one. -/
theorem splitLines_lineEnd {ending : List UInt8} (h : IsLineEnd ending) (rest : List UInt8) :
    splitLines [] (ending ++ rest) = some ([], rest) := by
  rcases h with rfl | rfl <;> rfl

/-- **Lines are given as they are,** up to the empty one. -/
theorem splitLines_of_areLines {lines : List (List UInt8)} {text ending : List UInt8}
    (h : AreLines lines text) (hlines : ∀ line ∈ lines, IsText line ∧ line ≠ [])
    (hending : IsLineEnd ending) (rest : List UInt8) :
    splitLines [] (text ++ ending ++ rest) = some (lines, rest) := by
  induction h with
  | nil => exact splitLines_lineEnd hending rest
  | @cons line ending' more bytes hend _ ih =>
    obtain ⟨⟨htext, hne⟩, hmore⟩ := List.forall_mem_cons.1 hlines
    have hassoc : line ++ ending' ++ bytes ++ ending ++ rest =
        line ++ ending' ++ (bytes ++ ending ++ rest) := by
      simp only [List.append_assoc]
    rw [hassoc, splitLines_line htext hne hend, ih hmore]
    rfl

/-- What the carriage return is taken off from is the line with the end that it has. -/
theorem exists_lineEnd (line : List UInt8) :
    ∃ ending, IsLineEnd ending ∧ line.reverse ++ [10] = chomp line ++ ending := by
  rw [chomp.eq_def]
  split
  case h_1 line => exact ⟨[13, 10], .inr rfl, by simp⟩
  case h_2 => exact ⟨[10], .inl rfl, rfl⟩

/-- **Lines that are given are there,** each with its end, and an empty one after them. -/
theorem exists_areLines_of_splitLines {line bytes rest : List UInt8} {lines : List (List UInt8)}
    (h : splitLines line bytes = some (lines, rest)) :
    ∃ text ending, AreLines lines text ∧ IsLineEnd ending ∧
      line.reverse ++ bytes = text ++ ending ++ rest := by
  induction bytes generalizing line lines with
  | nil => cases h
  | cons b bytes ih =>
    rw [splitLines] at h
    split at h
    case isTrue hb =>
      -- The line under way ends here; if it is empty, it is the last one.
      subst hb
      obtain ⟨ending, hending, hline⟩ := exists_lineEnd line
      have hbytes : line.reverse ++ 10 :: bytes = chomp line ++ ending ++ bytes := by
        rw [← hline, List.append_assoc, List.singleton_append]
      split at h
      case h_1 hempty =>
        obtain ⟨rfl, rfl⟩ := Prod.mk.inj (Option.some.inj h)
        exact ⟨[], ending, .nil, hending, by rw [hbytes, hempty]⟩
      case h_2 =>
        obtain ⟨⟨more, rest'⟩, hmore, hlines⟩ := Option.map_eq_some_iff.1 h
        obtain ⟨rfl, rfl⟩ := Prod.mk.inj hlines
        obtain ⟨text, last, htext, hlast, rfl⟩ := ih hmore
        exact ⟨chomp line ++ ending ++ text, last, .cons hending htext, hlast, by
          rw [hbytes]; simp only [List.append_assoc]⟩
    case isFalse =>
      obtain ⟨text, ending, htext, hending, hbytes⟩ := ih h
      refine ⟨text, ending, htext, hending, ?_⟩
      rw [← hbytes, List.reverse_cons, List.append_assoc, List.singleton_append]

/-- Empty lines in front do not count. -/
theorem dropEmptyLines_append {n : Nat} {empty : List UInt8}
    (h : AreLines (List.replicate n []) empty) (rest : List UInt8) :
    dropEmptyLines (empty ++ rest) = dropEmptyLines rest := by
  induction n generalizing empty with
  | zero =>
    cases h
    rfl
  | succ n ih =>
    cases h with
    | cons hending hmore =>
      have hrest := ih hmore
      rcases hending with rfl | rfl <;> exact hrest

/-- What is dropped in front is empty lines. -/
theorem exists_emptyLines (bytes : List UInt8) :
    ∃ n empty, AreLines (List.replicate n []) empty ∧ bytes = empty ++ dropEmptyLines bytes := by
  fun_induction dropEmptyLines bytes with
  | case1 rest ih =>
    obtain ⟨n, empty, hempty, hrest⟩ := ih
    exact ⟨n + 1, 10 :: empty, .cons (.inl rfl) hempty, congrArg (10 :: ·) hrest⟩
  | case2 rest ih =>
    obtain ⟨n, empty, hempty, hrest⟩ := ih
    exact ⟨n + 1, 13 :: 10 :: empty, .cons (.inr rfl) hempty, congrArg (13 :: 10 :: ·) hrest⟩
  | case3 bytes => exact ⟨0, [], .nil, rfl⟩

end Head

/-! ### Heads -/

/-- A byte is the digit of a number below ten. -/
def IsDigit (b : UInt8) (n : Nat) : Prop := n < 10 ∧ b.toNat = 48 + n

/-- A line of status: the version, three digits, and a phrase after another space, or nothing. -/
inductive IsStatusLine : List UInt8 → UInt8 → Status → Prop
  | intro {v a b c minor : UInt8} {hundreds tens ones : Nat} {phrase : List UInt8} {s : Status} :
      (v = 48 ∧ minor = 0 ∨ v = 49 ∧ minor = 1) →
      IsDigit a hundreds → IsDigit b tens → IsDigit c ones →
      s.code.toNat = hundreds * 100 + tens * 10 + ones →
      (phrase = [] ∨ phrase.head? = some 32) → IsText phrase →
      IsStatusLine (Response.bytesOf "HTTP/1." ++ v :: 32 :: a :: b :: c :: phrase) minor s

/-- A line of a header field: a token, a colon and a text.  The case of the token and the blanks
around the text do not count. -/
def IsField (line : List UInt8) (field : List Char × List Char) : Prop :=
  ∃ name value : List UInt8, line = name ++ 58 :: value ∧ IsToken (name.map Head.charOf) ∧
    IsText value ∧
    field = ((name.map Head.charOf).map Char.toLower, Head.trim (value.map Head.charOf))

/-- A head: a line of status, lines of fields, not too many of them, and an empty line. -/
inductive IsHead : List UInt8 → Head → Prop
  | intro {n : Nat} {empty first text ending : List UInt8} {more : List (List UInt8)}
      {minor : UInt8} {s : Status} {fields : List (List Char × List Char)} :
      AreLines (List.replicate n []) empty → IsStatusLine first minor s →
      List.Forall₂ IsField more fields → fields.length ≤ Head.maxFields →
      AreLines (first :: more) text → IsLineEnd ending →
      IsHead (empty ++ (text ++ ending)) ⟨minor, s, fields⟩

namespace Head

theorem bytesOf_version : Response.bytesOf "HTTP/1." = [72, 84, 84, 80, 47, 49, 46] := by
  decide +kernel

theorem digit?_iff {b : UInt8} {n : Nat} : digit? b = some n ↔ IsDigit b n := by
  have hcond : (48 ≤ b ∧ b ≤ 57) ↔ 48 ≤ b.toNat ∧ b.toNat ≤ 57 := Iff.rfl
  rw [digit?, IsDigit]
  split
  case isTrue h =>
    rw [hcond] at h
    rw [Option.some_inj]
    omega
  case isFalse h =>
    rw [hcond] at h
    refine ⟨nofun, fun hdigit => absurd ?_ h⟩
    omega

/-- Three digits are read as the code that they spell, if that is the code of a status. -/
theorem ofCode?_iff {a b c : UInt8} {hundreds tens ones : Nat} (ha : IsDigit a hundreds)
    (hb : IsDigit b tens) (hc : IsDigit c ones) {s : Status} :
    Status.ofCode? (UInt16.ofNat (hundreds * 100 + tens * 10 + ones)) = some s ↔
      s.code.toNat = hundreds * 100 + tens * 10 + ones := by
  generalize hn : hundreds * 100 + tens * 10 + ones = n
  have hlt : n < 65536 := by
    have hha := ha.1
    have hhb := hb.1
    have hhc := hc.1
    omega
  have hcode : (UInt16.ofNat n).toNat = n := UInt16.toNat_ofNat_of_lt' hlt
  have hself : s.code.toNat = n ↔ s.code = UInt16.ofNat n :=
    ⟨fun h => UInt16.toNat_inj.1 (h.trans hcode.symm), fun h => h ▸ hcode⟩
  rw [hself, Status.ofCode?]
  split
  case isTrue hrange =>
    cases s
    simp only [Option.some_inj, Status.mk.injEq, eq_comm]
  case isFalse hrange => exact ⟨nofun, fun h => absurd (h ▸ s.inRange) hrange⟩

theorem status?_iff {a b c : UInt8} {s : Status} :
    status? a b c = some s ↔ ∃ hundreds tens ones, IsDigit a hundreds ∧ IsDigit b tens ∧
      IsDigit c ones ∧ s.code.toNat = hundreds * 100 + tens * 10 + ones := by
  simp only [status?, bind, Option.bind_eq_some_iff, digit?_iff]
  constructor
  · rintro ⟨hundreds, ha, tens, hb, ones, hc, hs⟩
    exact ⟨hundreds, tens, ones, ha, hb, hc, (ofCode?_iff ha hb hc).1 hs⟩
  · rintro ⟨hundreds, tens, ones, ha, hb, hc, hs⟩
    exact ⟨hundreds, ha, tens, hb, ones, hc, (ofCode?_iff ha hb hc).2 hs⟩

/-- **A line of status is read as what it is.** -/
theorem statusLine?_iff {line : List UInt8} {minor : UInt8} {s : Status} :
    statusLine? line = some (minor, s) ↔ IsStatusLine line minor s := by
  constructor
  case mp =>
    intro h
    rw [statusLine?.eq_def] at h
    split at h
    case h_2 => cases h
    case h_1 v a b c phrase =>
      split at h
      case isFalse => cases h
      case isTrue hcond =>
        obtain ⟨hv, hphrase, htext⟩ := hcond
        obtain ⟨s', hs, hpair⟩ := Option.map_eq_some_iff.1 h
        obtain ⟨rfl, rfl⟩ := Prod.mk.inj hpair
        obtain ⟨hundreds, tens, ones, ha, hb, hc, hcode⟩ := status?_iff.1 hs
        have hminor : v = 48 ∧ v - 48 = 0 ∨ v = 49 ∧ v - 48 = 1 := by
          rcases hv with rfl | rfl
          · exact .inl ⟨rfl, rfl⟩
          · exact .inr ⟨rfl, rfl⟩
        have hline := IsStatusLine.intro hminor ha hb hc hcode hphrase (List.all_eq_true.1 htext)
        rwa [bytesOf_version] at hline
  case mpr =>
    intro h
    obtain @⟨v, a, b, c, minor, hundreds, tens, ones, phrase, s, hv, ha, hb, hc, hcode, hphrase,
      htext⟩ := h
    have hcond : (v = 48 ∨ v = 49) ∧ (phrase = [] ∨ phrase.head? = some 32) ∧
        phrase.all isFieldByte = true :=
      ⟨hv.imp And.left And.left, hphrase, List.all_eq_true.2 htext⟩
    have hminor : v - 48 = minor := by
      rcases hv with ⟨rfl, rfl⟩ | ⟨rfl, rfl⟩ <;> rfl
    calc statusLine? (Response.bytesOf "HTTP/1." ++ v :: 32 :: a :: b :: c :: phrase)
        = (status? a b c).map (v - 48, ·) := by rw [bytesOf_version]; exact if_pos hcond
      _ = some (minor, s) := by
          rw [status?_iff.2 ⟨_, _, _, ha, hb, hc, hcode⟩, hminor, Option.map_some]

/-- A line of status begins where no empty line could. -/
theorem dropEmptyLines_of_isStatusLine {line : List UInt8} {minor : UInt8} {s : Status}
    (h : IsStatusLine line minor s) (rest : List UInt8) :
    dropEmptyLines (line ++ rest) = line ++ rest := by
  obtain ⟨-, -, -, -, -, -, -⟩ := h
  rw [bytesOf_version]
  rfl

theorem isFieldByte_of_lt {b : UInt8} (hlow : 32 ≤ b.toNat) (hhigh : b.toNat < 127) :
    isFieldByte b = true := by
  have hlow : 32 ≤ b := hlow
  have hhigh : b ≠ 127 := by
    rintro rfl
    exact absurd hhigh (by decide)
  simp [isFieldByte, hlow, hhigh]

theorem isFieldByte_of_isDigit {b : UInt8} {n : Nat} (h : IsDigit b n) : isFieldByte b = true := by
  obtain ⟨hn, hb⟩ := h
  exact isFieldByte_of_lt (by omega) (by omega)

/-- A line of status is a text, and not an empty one. -/
theorem isText_of_isStatusLine {line : List UInt8} {minor : UInt8} {s : Status}
    (h : IsStatusLine line minor s) : IsText line ∧ line ≠ [] := by
  obtain @⟨v, a, b, c, _, _, _, _, phrase, _, hv, ha, hb, hc, -, -, htext⟩ := h
  have hversion : IsText [72, 84, 84, 80, 47, 49, 46] := List.all_eq_true.1 (by decide)
  have hv : isFieldByte v = true := by
    rcases hv with ⟨rfl, -⟩ | ⟨rfl, -⟩ <;> rfl
  have hrest : IsText (v :: 32 :: a :: b :: c :: phrase) := by
    simp only [IsText, List.forall_mem_cons]
    exact ⟨hv, rfl, isFieldByte_of_isDigit ha, isFieldByte_of_isDigit hb,
      isFieldByte_of_isDigit hc, htext⟩
  rw [bytesOf_version]
  exact ⟨List.forall_mem_append.2 ⟨hversion, hrest⟩, List.cons_ne_nil _ _⟩

/-- What holds of all numbers below 256 holds of every byte. -/
theorem forall_byte {p : UInt8 → Prop} (h : ∀ n < 256, p (UInt8.ofNat n)) (b : UInt8) : p b := by
  have hb := h b.toNat b.toNat_lt
  rwa [UInt8.ofNat_toNat] at hb

/-- A byte of a token is one of a text. -/
theorem isFieldByte_of_isTokenChar {b : UInt8} :
    isTokenChar (charOf b) = true → isFieldByte b = true :=
  forall_byte (p := fun b => isTokenChar (charOf b) = true → isFieldByte b = true)
    (by decide +kernel) b

theorem charOf_eq_colon {b : UInt8} : charOf b = ':' ↔ b = 58 :=
  forall_byte (p := fun b => charOf b = ':' ↔ b = 58) (by decide +kernel) b

/-- A line of a field is a text, and not an empty one. -/
theorem isText_of_isField {line : List UInt8} {field : List Char × List Char}
    (h : IsField line field) : IsText line ∧ line ≠ [] := by
  obtain ⟨name, value, rfl, htoken, hvalue, -⟩ := h
  have hname : IsText name := fun b hb =>
    isFieldByte_of_isTokenChar (htoken.2 _ (List.mem_map_of_mem hb))
  exact ⟨List.forall_mem_append.2 ⟨hname, List.forall_mem_cons.2 ⟨by decide, hvalue⟩⟩, by simp⟩

/-- **A line of a field is read as what it is.** -/
theorem field?_iff {line : List UInt8} {field : List Char × List Char} :
    field? line = some field ↔ IsField line field := by
  rw [field?, List.span_eq_takeWhile_dropWhile]
  constructor
  case mp =>
    intro h
    split at h
    case h_2 => cases h
    case h_1 name value hspan =>
      -- The characters are cut at the colon, and so are the bytes that they stand for.
      obtain ⟨rfl, hvalue⟩ := Prod.mk.inj hspan
      have hchars := List.takeWhile_append_dropWhile (p := isTokenChar) (l := line.map charOf)
      rw [hvalue] at hchars
      obtain ⟨name, after, rfl, hname, hafter⟩ := List.map_eq_append_iff.1 hchars.symm
      obtain ⟨colon, value, rfl, hcolon, rfl⟩ := List.map_eq_cons_iff.1 hafter
      obtain rfl := charOf_eq_colon.1 hcolon
      rw [← hname] at h
      split at h
      case isFalse => cases h
      case isTrue hcond =>
        obtain ⟨hne, htext⟩ := hcond
        refine ⟨name, value, rfl, ⟨hne, fun c hc => ?_⟩, ?_, (Option.some.inj h).symm⟩
        · exact List.mem_takeWhile_imp (hname ▸ hc)
        · exact fun b hb => List.all_eq_true.1 htext b (by simp [hb])
  case mpr =>
    intro h
    have htext := List.all_eq_true.2 (isText_of_isField h).1
    obtain ⟨name, value, rfl, htoken, -, rfl⟩ := h
    have htake : (':' :: value.map charOf).takeWhile isTokenChar = [] := rfl
    have hdrop : (':' :: value.map charOf).dropWhile isTokenChar = ':' :: value.map charOf := rfl
    have hchars : (name ++ 58 :: value).map charOf = name.map charOf ++ ':' :: value.map charOf :=
      List.map_append
    rw [hchars, List.takeWhile_append_of_pos htoken.2, List.dropWhile_append_of_pos htoken.2,
      htake, hdrop, List.append_nil]
    exact if_pos ⟨htoken.1, htext⟩

theorem isText_of_forall₂_isField {lines : List (List UInt8)}
    {fields : List (List Char × List Char)} (h : List.Forall₂ IsField lines fields) :
    ∀ line ∈ lines, IsText line ∧ line ≠ [] := by
  induction h with
  | nil => exact List.forall_mem_nil _
  | cons hfield _ ih => exact List.forall_mem_cons.2 ⟨isText_of_isField hfield, ih⟩

/-- **A head is read as what it is,** and what follows it is left. -/
theorem read_iff {bytes rest : List UInt8} {h : Head} :
    read bytes = some (h, rest) ↔ ∃ front, IsHead front h ∧ bytes = front ++ rest := by
  constructor
  case mp =>
    intro hread
    obtain ⟨⟨lines, rest'⟩, hlines, hhead⟩ := Option.bind_eq_some_iff.1 hread
    cases lines with
    | nil => cases hhead
    | cons first more =>
      obtain ⟨⟨minor, s⟩, hfirst, hhead⟩ := Option.bind_eq_some_iff.1 hhead
      obtain ⟨fields, hmore, hhead⟩ := Option.bind_eq_some_iff.1 hhead
      split at hhead
      case isFalse => cases hhead
      case isTrue hcount =>
        obtain ⟨rfl, rfl⟩ := Prod.mk.inj (Option.some.inj hhead)
        obtain ⟨n, empty, hempty, hbytes⟩ := exists_emptyLines bytes
        obtain ⟨text, ending, htext, hending, hafter⟩ := exists_areLines_of_splitLines hlines
        refine ⟨empty ++ (text ++ ending), .intro hempty (statusLine?_iff.1 hfirst)
          ((mapM_eq_some_iff fun _ _ => field?_iff).1 hmore) hcount htext hending, ?_⟩
        rw [List.append_assoc, ← hafter]
        exact hbytes
  case mpr =>
    rintro ⟨front, hfront, rfl⟩
    obtain @⟨n, empty, first, text, ending, more, minor, s, fields, hempty, hfirst, hmore, hcount,
      htext, hending⟩ := hfront
    have hstart : dropEmptyLines (text ++ ending ++ rest) = text ++ ending ++ rest := by
      cases htext
      simp only [List.append_assoc, dropEmptyLines_of_isStatusLine hfirst]
    have hlines : ∀ line ∈ first :: more, IsText line ∧ line ≠ [] :=
      List.forall_mem_cons.2 ⟨isText_of_isStatusLine hfirst, isText_of_forall₂_isField hmore⟩
    have hsplit : splitLines [] (dropEmptyLines (empty ++ (text ++ ending) ++ rest)) =
        some (first :: more, rest) := by
      rw [List.append_assoc, dropEmptyLines_append hempty, hstart]
      exact splitLines_of_areLines htext hlines hending rest
    have hfields := (mapM_eq_some_iff fun _ _ => field?_iff).2 hmore
    rw [read, hsplit]
    simp only [bind, Option.bind_some, statusLine?_iff.2 hfirst, hfields]
    exact if_pos hcount

end Head

/-! ### Replies -/

/-- A text spells the length of a body, in ASCII digits alone. -/
def SpellsLength (text : List Char) (length : Nat) : Prop :=
  text ≠ [] ∧ Numeral.AreDigits text ∧ Numeral.value 0 text = length ∧ length ≤ Framing.maxLength

/-- A head says where the body ends, for a request of a method: there is none, an encoding of
the body says so, or all lengths that are announced are the same. -/
inductive IsFramed (method : String) (h : Head) : Prop
  | absent : Framing.isBodiless method h.status = true → IsFramed method h
  /-- The first version of the protocol knows no encodings. -/
  | encoded : h.values "transfer-encoding" ≠ [] → h.minor ≠ 0 → IsFramed method h
  /-- If no length is announced, the body ends with the connection. -/
  | plain (length : Nat) : h.values "transfer-encoding" = [] →
      (∀ value ∈ h.values "content-length", ∀ part ∈ Framing.commaParts value,
        SpellsLength part length) → IsFramed method h

/-- Bytes are a reply to a request of a method, with a status: some interim heads, a final head
that says where the body ends, and whatever is there of the body. -/
inductive IsReply (method : String) : List UInt8 → Status → Prop
  | final {front : List UInt8} {h : Head} (rest : List UInt8) :
      IsHead front h → h.status.isInterim = false → IsFramed method h →
      IsReply method (front ++ rest) h.status
  | interim {front rest : List UInt8} {h : Head} {s : Status} :
      IsHead front h → h.status.isInterim = true → IsReply method rest s →
      IsReply method (front ++ rest) s

namespace Framing

theorem spellsLength_iff {text : List Char} {n : Nat} :
    (if text = [] then none else (Numeral.readDigits maxLength 0 text).toOption) = some n ↔
      SpellsLength text n := by
  rw [SpellsLength, ← Numeral.readDigits_eq_ok_iff]
  split
  case isTrue h => exact ⟨nofun, fun hn => absurd h hn.1⟩
  case isFalse h =>
    cases Numeral.readDigits maxLength 0 text with
    | error fault => exact ⟨nofun, fun hn => nomatch hn.2⟩
    | ok m => simp [h, Except.toOption]

theorem commaParts_ne_nil (cs : List Char) : commaParts cs ≠ [] :=
  fun h => List.splitOn_ne_nil ',' cs (List.map_eq_nil_iff.1 h)

/-- Header values name a length exactly if all numerals in them spell it. -/
theorem length?_iff {values : List (List Char)} (hne : values ≠ []) :
    (∃ n, length? values = some n) ↔
      ∃ n, ∀ value ∈ values, ∀ part ∈ commaParts value, SpellsLength part n := by
  have hread {lengths : List Nat} :=
    mapM_eq_some_iff (r := SpellsLength) (fun _ _ => spellsLength_iff)
      (l := values.flatMap commaParts) (m := lengths)
  simp only [← List.forall_mem_flatMap]
  constructor
  case mp =>
    rintro ⟨n, hn⟩
    obtain ⟨lengths, hlengths, hsame⟩ := Option.bind_eq_some_iff.1 hn
    cases lengths with
    | nil => cases hsame
    | cons first more =>
      simp only at hsame
      split at hsame
      case isFalse => cases hsame
      case isTrue hall =>
        have hfirst : ∀ length ∈ first :: more, length = first :=
          List.forall_mem_cons.2 ⟨rfl, fun length hlength =>
            beq_iff_eq.1 (List.all_eq_true.1 hall length hlength)⟩
        exact ⟨first, forall_of_forall₂ (hread.1 hlengths) hfirst⟩
  case mpr =>
    rintro ⟨n, hn⟩
    have hparts : values.flatMap commaParts ≠ [] := by
      obtain ⟨value, more, rfl⟩ := List.exists_cons_of_ne_nil hne
      exact List.append_ne_nil_of_left_ne_nil (commaParts_ne_nil value) _
    obtain ⟨part, more, hmore⟩ := List.exists_cons_of_ne_nil hparts
    have hlengths : List.Forall₂ SpellsLength (values.flatMap commaParts)
        ((values.flatMap commaParts).map fun _ => n) := by
      rw [List.forall₂_map_right_iff, List.forall₂_same]
      exact hn
    have hsame : (more.map fun _ => n).all (· == n) = true :=
      List.all_eq_true.2 fun length hlength => by
        obtain ⟨-, -, rfl⟩ := List.mem_map.1 hlength
        exact beq_self_eq_true n
    refine ⟨n, Option.bind_eq_some_iff.2 ⟨_, hread.2 hlengths, ?_⟩⟩
    rw [hmore]
    exact if_pos hsame

/-- **A head has a framing exactly if it is framed.** -/
theorem ofHead_iff_isFramed {method : String} {h : Head} :
    (∃ framing, ofHead method h = some framing) ↔ IsFramed method h := by
  constructor
  case mp =>
    rintro ⟨framing, hframing⟩
    simp only [ofHead] at hframing
    split at hframing
    case isTrue hbodiless => exact .absent hbodiless
    case isFalse =>
      split at hframing
      case isTrue hencoded =>
        split at hframing
        case isTrue => cases hframing
        case isFalse hminor => exact .encoded hencoded hminor
      case isFalse hplain =>
        split at hframing
        case isTrue hlengths =>
          obtain ⟨n, hn, -⟩ := Option.map_eq_some_iff.1 hframing
          obtain ⟨length, hall⟩ := (length?_iff hlengths).1 ⟨n, hn⟩
          exact .plain length (not_not.1 hplain) hall
        case isFalse hnone =>
          rw [not_not] at hnone
          exact .plain 0 (not_not.1 hplain) (hnone ▸ List.forall_mem_nil _)
  case mpr =>
    intro hframed
    by_cases hbodiless : isBodiless method h.status = true
    · exact ⟨.absent, if_pos hbodiless⟩
    · simp only [ofHead, if_neg hbodiless]
      cases hframed with
      | absent hbodiless' => exact absurd hbodiless' hbodiless
      | encoded hencoded hminor => exact ⟨_, by rw [if_pos hencoded, if_neg hminor]⟩
      | plain length hplain hall =>
        rw [if_neg (not_not.2 hplain)]
        by_cases hnone : h.values "content-length" = []
        · exact ⟨.untilClose, if_neg (not_not.2 hnone)⟩
        · obtain ⟨n, hn⟩ := (length?_iff hnone).2 ⟨length, hall⟩
          exact ⟨.counted n, by rw [if_pos hnone, hn, Option.map_some]⟩

end Framing

/-- A head has the end of its last line at least. -/
theorem IsHead.length_pos {front : List UInt8} {h : Head} (hfront : IsHead front h) :
    0 < front.length := by
  obtain ⟨-, -, -, -, -, hending⟩ := hfront
  rcases hending with rfl | rfl <;> simp only [List.length_append, List.length_cons] <;> omega

namespace Response

/-- A head that is interim is skipped; a final one is the answer if it has a framing. -/
theorem readAfter_succ {bytes rest : List UInt8} {h : Head}
    (hread : Head.read bytes = some (h, rest)) (method : String) (interim : Nat) :
    readAfter method (interim + 1) bytes =
      if h.status.isInterim then readAfter method interim rest
      else (Framing.ofHead method h).map fun framing => ⟨h.status, framing.body? rest⟩ := by
  rw [readAfter, hread]
  simp only [bind, Option.bind_some, Option.map_eq_bind]
  rfl

/-- What is read is a reply, however many interim answers may be skipped. -/
theorem isReply_of_readAfter {method : String} {interim : Nat} {bytes : List UInt8} {s : Status}
    {body : Option (List UInt8)} (h : readAfter method interim bytes = some ⟨s, body⟩) :
    IsReply method bytes s := by
  induction interim generalizing bytes with
  | zero => cases h
  | succ interim ih =>
    obtain ⟨⟨head, rest⟩, hread, -⟩ := Option.bind_eq_some_iff.1 h
    obtain ⟨front, hfront, rfl⟩ := Head.read_iff.1 hread
    rw [readAfter_succ hread] at h
    split at h
    case isTrue hinterim => exact .interim hfront hinterim (ih h)
    case isFalse hfinal =>
      obtain ⟨framing, hframing, hresponse⟩ := Option.map_eq_some_iff.1 h
      obtain ⟨rfl, -⟩ := Response.mk.inj hresponse
      exact .final rest hfront (Bool.eq_false_iff.2 hfinal)
        (Framing.ofHead_iff_isFramed.1 ⟨framing, hframing⟩)

/-- A reply is read if as many interim answers may be skipped as it has bytes. -/
theorem readAfter_of_isReply {method : String} {bytes : List UInt8} {s : Status}
    (h : IsReply method bytes s) {interim : Nat} (hle : bytes.length ≤ interim) :
    ∃ body, readAfter method interim bytes = some ⟨s, body⟩ := by
  induction h generalizing interim with
  | @final front head rest hfront hfinal hframed =>
    have hpos := hfront.length_pos
    rw [List.length_append] at hle
    obtain ⟨interim, rfl⟩ : ∃ n, interim = n + 1 := ⟨interim - 1, by omega⟩
    obtain ⟨framing, hframing⟩ := Framing.ofHead_iff_isFramed.2 hframed
    refine ⟨framing.body? rest, ?_⟩
    rw [readAfter_succ (Head.read_iff.2 ⟨front, hfront, rfl⟩), hfinal, hframing]
    rfl
  | @interim front rest head s hfront hinterim _ ih =>
    -- The head takes a byte, so what follows it does with one interim answer less.
    have hpos := hfront.length_pos
    rw [List.length_append] at hle
    obtain ⟨interim, rfl⟩ : ∃ n, interim = n + 1 := ⟨interim - 1, by omega⟩
    have hle : rest.length ≤ interim := by omega
    obtain ⟨body, hbody⟩ := ih hle
    refine ⟨body, ?_⟩
    rw [readAfter_succ (Head.read_iff.2 ⟨front, hfront, rfl⟩), if_pos hinterim, hbody]

/-- **The status that is read from bytes is the one of the reply that they are.** -/
theorem read_iff_isReply {method : String} {bytes : List UInt8} {s : Status} :
    (∃ body, read method bytes = some ⟨s, body⟩) ↔ IsReply method bytes s :=
  ⟨fun ⟨_, h⟩ => isReply_of_readAfter h, fun h => readAfter_of_isReply h (Nat.le_refl _)⟩

end Response

/-- Every number below ten has a digit. -/
theorem exists_isDigit {n : Nat} (h : n < 10) : ∃ b, IsDigit b n := by
  refine ⟨UInt8.ofNat (48 + n), h, UInt8.toNat_ofNat_of_lt' ?_⟩
  have hsize : UInt8.size = 256 := rfl
  omega

/-- **A reply may have any status that is not interim.** -/
theorem exists_isReply (method : String) {s : Status} (h : s.isInterim = false) :
    ∃ bytes, IsReply method bytes s := by
  have hcode : s.code.toNat ≤ 999 := s.inRange.2
  obtain ⟨a, ha⟩ : ∃ a, IsDigit a (s.code.toNat / 100) := exists_isDigit (by omega)
  obtain ⟨b, hb⟩ : ∃ b, IsDigit b (s.code.toNat / 10 % 10) := exists_isDigit (by omega)
  obtain ⟨c, hc⟩ : ∃ c, IsDigit c (s.code.toNat % 10) := exists_isDigit (by omega)
  have hdigits : s.code.toNat =
      s.code.toNat / 100 * 100 + s.code.toNat / 10 % 10 * 10 + s.code.toNat % 10 := by omega
  have hline := IsStatusLine.intro (.inr ⟨rfl, rfl⟩) ha hb hc hdigits (.inl rfl)
    (List.forall_mem_nil _)
  have hhead := IsHead.intro (n := 0) .nil hline .nil (Nat.zero_le _) (.cons (.inl rfl) .nil)
    (.inl rfl)
  exact ⟨_, .final [] hhead h (.plain 0 rfl (List.forall_mem_nil _))⟩

end Http
end ServiceReadiness
