set_option autoImplicit false

/-! # Joining and padding text

Small operations on `String` that several printers share. They are given by recursion on the
list or on the missing width, so that statements about a printed text follow its parts. -/

namespace Ferry.Text

/-- Append each text in turn behind a separator. -/
def joinOnto (separator : String) : String → List String → String
  | done, [] => done
  | done, s :: rest => joinOnto separator (done ++ separator ++ s) rest

/-- What stands in front stays in front. -/
theorem joinOnto_append (separator front done : String) (rest : List String) :
    joinOnto separator (front ++ done) rest = front ++ joinOnto separator done rest := by
  induction rest generalizing done with
  | nil => rfl
  | cons s rest ih =>
    unfold joinOnto
    rw [String.append_assoc, String.append_assoc, ih, String.append_assoc]

/-- The texts in order, with `separator` between neighbours. -/
def join (separator : String) : List String → String
  | [] => ""
  | s :: rest => joinOnto separator s rest

theorem join_nil (separator : String) : join separator [] = "" := rfl

theorem join_singleton (separator s : String) : join separator [s] = s := rfl

theorem join_cons_cons (separator s t : String) (rest : List String) :
    join separator (s :: t :: rest) = s ++ separator ++ join separator (t :: rest) :=
  joinOnto_append separator (s ++ separator) t rest

/-- `count` copies of one character. -/
def repeated (c : Char) (count : Nat) : String := String.ofList (List.replicate count c)

/-- Fill up with blanks on the right until the text has `width` characters. -/
def padRight (width : Nat) (s : String) : String := s ++ repeated ' ' (width - s.length)

/-- Fill up with zeros on the left until the text has `width` characters. -/
def padZeros (width : Nat) (s : String) : String := repeated '0' (width - s.length) ++ s

/-- Whether `part` occurs in `s`, character by character. -/
def contains (s part : String) : Bool := go s.toList
where
  /-- Whether `part` starts at this place or at a later one. -/
  go : List Char → Bool
    | [] => part.isEmpty
    | c :: rest => part.toList.isPrefixOf (c :: rest) || go rest

/-- The text from its first line break up to the next, and so on: always at least one line. -/
def lines (s : String) : List String := go [] s.toList
where
  /-- `held` holds the characters of the current line in reverse. -/
  go (held : List Char) : List Char → List String
    | [] => [String.ofList held.reverse]
    | '\n' :: rest => String.ofList held.reverse :: go [] rest
    | c :: rest => go (c :: held) rest

end Ferry.Text
