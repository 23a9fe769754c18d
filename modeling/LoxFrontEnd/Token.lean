import LoxFrontEnd.Number.Shortest

/-!
# Tokens

The words, marks and literals of Lox, and the line by which a token is printed.
-/
namespace LoxFrontEnd

/-- The marks of one or two characters. -/
inductive Operator
  | leftParen | rightParen | leftBrace | rightBrace | comma | dot | minus | plus | semicolon
  | slash | star | bang | bangEqual | equal | equalEqual | greater | greaterEqual | less
  | lessEqual
  deriving DecidableEq, Repr

namespace Operator

def all : List Operator :=
  [leftParen, rightParen, leftBrace, rightBrace, comma, dot, minus, plus, semicolon, slash, star,
    bang, bangEqual, equal, equalEqual, greater, greaterEqual, less, lessEqual]

def name : Operator → String
  | leftParen => "LEFT_PAREN"
  | rightParen => "RIGHT_PAREN"
  | leftBrace => "LEFT_BRACE"
  | rightBrace => "RIGHT_BRACE"
  | comma => "COMMA"
  | dot => "DOT"
  | minus => "MINUS"
  | plus => "PLUS"
  | semicolon => "SEMICOLON"
  | slash => "SLASH"
  | star => "STAR"
  | bang => "BANG"
  | bangEqual => "BANG_EQUAL"
  | equal => "EQUAL"
  | equalEqual => "EQUAL_EQUAL"
  | greater => "GREATER"
  | greaterEqual => "GREATER_EQUAL"
  | less => "LESS"
  | lessEqual => "LESS_EQUAL"

/-- How an operator is written in a program. -/
def spelling : Operator → Text
  | leftParen => ['(']
  | rightParen => [')']
  | leftBrace => ['{']
  | rightBrace => ['}']
  | comma => [',']
  | dot => ['.']
  | minus => ['-']
  | plus => ['+']
  | semicolon => [';']
  | slash => ['/']
  | star => ['*']
  | bang => ['!']
  | bangEqual => ['!', '=']
  | equal => ['=']
  | equalEqual => ['=', '=']
  | greater => ['>']
  | greaterEqual => ['>', '=']
  | less => ['<']
  | lessEqual => ['<', '=']

/-- The operator with a given spelling. -/
def ofSpelling? (t : Text) : Option Operator := all.find? (·.spelling = t)

theorem mem_all (o : Operator) : o ∈ all := by cases o <;> decide

theorem ofSpelling?_spelling (o : Operator) : ofSpelling? o.spelling = some o := by
  cases o <;> rfl

theorem spelling_of_ofSpelling? {t : Text} {o : Operator} (h : ofSpelling? t = some o) :
    o.spelling = t := by
  simpa using List.find?_some h

end Operator

/-- The reserved words. -/
inductive Keyword
  | andWord | classWord | elseWord | falseWord | funWord | forWord | ifWord | nilWord | orWord
  | printWord | returnWord | superWord | thisWord | trueWord | varWord | whileWord
  deriving DecidableEq, Repr

namespace Keyword

def all : List Keyword :=
  [andWord, classWord, elseWord, falseWord, funWord, forWord, ifWord, nilWord, orWord, printWord,
    returnWord, superWord, thisWord, trueWord, varWord, whileWord]

def name : Keyword → String
  | andWord => "AND"
  | classWord => "CLASS"
  | elseWord => "ELSE"
  | falseWord => "FALSE"
  | funWord => "FUN"
  | forWord => "FOR"
  | ifWord => "IF"
  | nilWord => "NIL"
  | orWord => "OR"
  | printWord => "PRINT"
  | returnWord => "RETURN"
  | superWord => "SUPER"
  | thisWord => "THIS"
  | trueWord => "TRUE"
  | varWord => "VAR"
  | whileWord => "WHILE"

/-- How a reserved word is written in a program. -/
def spelling : Keyword → Text
  | andWord => ['a', 'n', 'd']
  | classWord => ['c', 'l', 'a', 's', 's']
  | elseWord => ['e', 'l', 's', 'e']
  | falseWord => ['f', 'a', 'l', 's', 'e']
  | funWord => ['f', 'u', 'n']
  | forWord => ['f', 'o', 'r']
  | ifWord => ['i', 'f']
  | nilWord => ['n', 'i', 'l']
  | orWord => ['o', 'r']
  | printWord => ['p', 'r', 'i', 'n', 't']
  | returnWord => ['r', 'e', 't', 'u', 'r', 'n']
  | superWord => ['s', 'u', 'p', 'e', 'r']
  | thisWord => ['t', 'h', 'i', 's']
  | trueWord => ['t', 'r', 'u', 'e']
  | varWord => ['v', 'a', 'r']
  | whileWord => ['w', 'h', 'i', 'l', 'e']

/-- The reserved word with a given spelling. -/
def ofSpelling? (t : Text) : Option Keyword := all.find? (·.spelling = t)

theorem mem_all (k : Keyword) : k ∈ all := by cases k <;> decide

theorem ofSpelling?_spelling (k : Keyword) : ofSpelling? k.spelling = some k := by
  cases k <;> rfl

theorem spelling_of_ofSpelling? {t : Text} {k : Keyword} (h : ofSpelling? t = some k) :
    k.spelling = t := by
  simpa using List.find?_some h

end Keyword

/-- What a token is. -/
inductive Kind
  | operator (o : Operator)
  | identifier
  | string
  | number
  | keyword (k : Keyword)
  | eof
  deriving DecidableEq, Repr

namespace Kind

def all : List Kind :=
  Operator.all.map operator ++ [identifier, string, number] ++ Keyword.all.map keyword ++ [eof]

def name : Kind → String
  | operator o => o.name
  | identifier => "IDENTIFIER"
  | string => "STRING"
  | number => "NUMBER"
  | keyword k => k.name
  | eof => "EOF"

def ofName? (name : String) : Option Kind := all.find? (·.name == name)

theorem mem_all (k : Kind) : k ∈ all := by
  cases k <;> simp [all, Operator.mem_all, Keyword.mem_all]

theorem ofName?_name (k : Kind) : ofName? k.name = some k := by
  have hall : all.all (fun k => ofName? k.name = some k) = true := by decide
  simpa using List.all_eq_true.mp hall k k.mem_all

end Kind

/-- The value that a literal token stands for. -/
inductive Literal
  | string (value : Text)
  | number (value : Binary64)
  deriving DecidableEq, Repr

/-- A string is shown without its quotes. -/
def Literal.text : Literal → Text
  | string value => value
  | number value => value.text

/-- A token with the text it was read from and the line on which that text ends. -/
structure Token where
  kind : Kind
  lexeme : Text
  literal : Option Literal
  line : Nat
  deriving DecidableEq, Repr

namespace Token

/-- Kind, lexeme and literal, with `null` for a token that has no value. -/
def text (t : Token) : Text :=
  t.kind.name.toList ++ ' ' :: t.lexeme ++ ' ' ::
    match t.literal with
    | some literal => literal.text
    | none => "null".toList

/-- The last token of every program. -/
def endOfFile (line : Nat) : Token := ⟨.eof, [], none, line⟩

end Token

end LoxFrontEnd
