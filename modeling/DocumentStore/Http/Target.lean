/-
  DocumentStore.Http.Target — what a request is addressed to.

  A target is a path and, behind the first question mark, a query. A percent sign with two
  hexadecimal digits stands for an octet, any other for itself. The path is decoded as a
  whole, so an encoded slash separates like a plain one; in a query `&` and `=` separate
  before anything is decoded, and a plus sign is a space.
-/

import DocumentStore.Named
import DocumentStore.Text.Hexadecimal
import DocumentStore.Text.Split
import DocumentStore.Text.Utf8

namespace DocumentStore.Http

/-- The octets of a text with its percent escapes undone. -/
def percentOctets : List Char → List UInt8
  | [] => []
  | '%' :: a :: b :: cs =>
    match Text.hexValue? a, Text.hexValue? b with
    | some high, some low => UInt8.ofNat (high * 16 + low) :: percentOctets cs
    | _, _ => Text.Utf8.encode ['%'] ++ percentOctets (a :: b :: cs)
  | c :: cs => Text.Utf8.encode [c] ++ percentOctets cs

def percentDecode (cs : List Char) : List Char := Text.Utf8.decode (percentOctets cs)

/-- The characters that an address keeps as they are. -/
def isAddressChar (c : Char) : Bool :=
  c.isAlphanum || "-._~:/%#?=@[]!$&'()*+,;".toList.contains c

def octetEscape (b : UInt8) : List Char := '%' :: (Text.hex 2 b.toNat).map Char.toUpper

/-- A text as an address, all else escaped. -/
def percentEncode (cs : List Char) : List Char :=
  cs.flatMap fun c => if isAddressChar c then [c] else (Text.Utf8.encode [c]).flatMap octetEscape

structure Target where
  path : List Char
  /-- The query as it was sent. -/
  query : List Char
  deriving DecidableEq, Repr

def Target.ofText (text : String) : Target :=
  match Text.cut '?' text.toList with
  | none => ⟨percentDecode text.toList, []⟩
  | some (path, query) => ⟨percentDecode path, query⟩

/-- A name or value of a query. -/
def queryWord (cs : List Char) : String :=
  String.ofList (percentDecode (cs.map fun c => if c = '+' then ' ' else c))

/-- One piece of a query; without an equals sign its value is empty. -/
def queryPair (piece : List Char) : String × String :=
  match Text.cut '=' piece with
  | none => (queryWord piece, "")
  | some (name, value) => (queryWord name, queryWord value)

/-- The parameters of a query, the last of equally named ones counting. -/
def Target.params (target : Target) : Named String :=
  Keyed.ofList (((Text.splitAt '&' target.query).filter fun piece => !piece.isEmpty).map queryPair)

end DocumentStore.Http
