import Dissect.Text.Utf8

namespace Dissect.Text

def cutOnto (sep : α → Bool) (parts : Array (List α)) (current : List α) :
    List α → Array (List α)
  | [] => parts.push current.reverse
  | x :: rest =>
      if sep x then cutOnto sep (parts.push current.reverse) [] rest
      else cutOnto sep parts (x :: current) rest

def cut (sep : α → Bool) (xs : List α) : List (List α) := (cutOnto sep #[] [] xs).toList

/-- The parts of a text between line feeds; a text that ends in a line feed has a last, empty
part. -/
def splitLines (text : String) : List String := (cut (· == '\n') text.toList).map String.ofList

/-- The number of lines: a final line feed ends the last line and opens no further one. -/
def lineTotal (text : String) : Nat :=
  if text.isEmpty then 0
  else
    let lines := cut (· == '\n') text.toList
    if 1 < lines.length && lines.getLast? == some [] then lines.length - 1 else lines.length

def lineFeedsBefore (bs : Bytes) (offset : Nat) : Nat := (bs.take offset).countP (· == 10)

/-- Carriage returns, alone or before a line feed, read as line feeds. -/
def unifyBreaksOnto (found : Array Char) : List Char → Array Char
  | [] => found
  | '\r' :: '\n' :: rest => unifyBreaksOnto (found.push '\n') rest
  | '\r' :: rest => unifyBreaksOnto (found.push '\n') rest
  | c :: rest => unifyBreaksOnto (found.push c) rest

def unifyBreaks (text : String) : String :=
  String.ofList (unifyBreaksOnto #[] text.toList).toList

/-- The text of a file: strict UTF-8, with unified line breaks. -/
def read (bs : Bytes) : Except Utf8.Fault String := (Utf8.decode bs).map unifyBreaks

end Dissect.Text
