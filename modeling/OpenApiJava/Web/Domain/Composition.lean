import OpenApiJava.Web.Domain.Table

/-!
# Composed characters

A letter with marks can be written in several ways. In the composed form each letter is joined with
as many of its marks as there are characters for, and the other marks stand in the order of their
classes.
-/

namespace OpenApiJava.Web.Domain

/-- The combining class of a code point; a code point of class zero is no mark that moves. -/
def combiningClass (code : Nat) : Nat :=
  let found := combiningClasses.find? fun (first, last, _) => first ≤ code && code ≤ last
  (found.map fun (_, _, value) => value).getD 0

/-- How many marks a character can be composed with. -/
def mostMarks : Nat := 4

/-- The parts of a character that is composed at most the given number of times. -/
def partsOf : Nat → Nat → List Nat
  | 0, code => [code]
  | depth + 1, code =>
      match compositions.find? fun (composed, _, _) => composed == code with
      | some (_, first, second) => partsOf depth first ++ [second]
      | none => [code]

/-- Puts a code point behind the reversed code points before it, but a mark in front of the marks of
higher classes. -/
def placeMark (code : Nat) : List Nat → List Nat
  | [] => [code]
  | last :: before =>
      if 0 < combiningClass code && combiningClass code < combiningClass last then
        last :: placeMark code before
      else code :: last :: before

/-- The code points of a text in parts, with the marks in order. -/
def separated (label : List Nat) : List Nat :=
  ((label.flatMap (partsOf mostMarks)).foldl (fun before code => placeMark code before) []).reverse

/-- The character that is composed of two code points. -/
def composed? (first second : Nat) : Option Nat :=
  (compositions.find? fun composition => composition.2 == (first, second)).map (·.1)

/-- Joins code points with the letter before them. The marks between, which are reversed, were not
joined with the letter, and keep marks of their class and of lower classes from it. -/
def composeAfter (letter : Nat) (between : List Nat) : List Nat → List Nat
  | [] => letter :: between.reverse
  | code :: rest =>
      let reaches :=
        match between with
        | [] => true
        | last :: _ => combiningClass last < combiningClass code
      match if reaches then composed? letter code else none with
      | some joined => composeAfter joined between rest
      | none =>
          if combiningClass code == 0 then
            letter :: between.reverse ++ composeAfter code [] rest
          else composeAfter letter (code :: between) rest

/-- The composed form of code points. Marks in front of all letters stay. -/
def composedForm (label : List Nat) : List Nat :=
  let parts := separated label
  let marks := parts.takeWhile fun code => combiningClass code != 0
  match parts.dropWhile fun code => combiningClass code != 0 with
  | [] => marks
  | letter :: rest => marks ++ composeAfter letter [] rest

end OpenApiJava.Web.Domain
