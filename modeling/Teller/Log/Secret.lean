import Teller.Text.Pattern

/-!
# Secrets in text

Keys, seed phrases, tokens, passwords and credentials are masked wherever they occur in a text. A
rule describes a label, which is kept, and the secret behind it, which is replaced by a mask. The
rules are applied one after the other, blocks of keys first.

    maskFrom_of_none        a character at which no secret begins is kept
-/

namespace Teller.Log

open Text Text.Pattern

/-- What a secret looks like and what is written in its place. -/
structure SecretRule where
  label : Pattern
  secret : Pattern
  mask : List Char

namespace SecretRule

/-- The places after the label and after the secret of a match that begins here. -/
def matchAt? (rule : SecretRule) (start : Place) : Option (Place × Place) :=
  (rule.label.rests start).findSome? fun middle =>
    (rule.secret.rest? middle).map fun finish => (middle, finish)

/-- Masks every secret, from the left to the right. `skipped` counts the characters that still
belong to the last secret. -/
def maskFrom (rule : SecretRule) (before : Option Char) : (skipped : Nat) → List Char → List Char
  | _, [] => []
  | skipped + 1, c :: rest => rule.maskFrom (some c) skipped rest
  | 0, c :: rest =>
    match rule.matchAt? ⟨before, c :: rest⟩ with
    | some (middle, finish) =>
      (c :: rest).take (rest.length + 1 - middle.rest.length) ++ rule.mask ++
        rule.maskFrom (some c) (rest.length - finish.rest.length) rest
    | none => c :: rule.maskFrom (some c) 0 rest

/-- Masks every secret of a text. -/
def apply (rule : SecretRule) (cs : List Char) : List Char := rule.maskFrom none 0 cs

end SecretRule

/-! ## The rules -/

def blanks : Pattern := many (one isBlank)

def quoteMark : Pattern := optional (anyOf ['"', '\''])

/-- A colon or an equals sign with what may stand around it before a value. -/
def assignment : Pattern := all [quoteMark, blanks, anyOf [':', '='], blanks, quoteMark]

/-- Characters of tokens and credentials; case is ignored. -/
def isTokenCharacter (c : Char) : Bool :=
  isAnyLetter c || c.isDigit || ['_', '-', '.', '/', '+'].contains c

/-- At least one capital or space, as in the first and last lines of a block of keys. -/
def capitals : Pattern := atLeast 1 (one fun c => ('A' ≤ c && c ≤ 'Z') || c == ' ')

/-- Blocks of keys, from their first line to their last. -/
def keyBlock : SecretRule where
  label := .empty
  secret := all [text "-----BEGIN", capitals, text "PRIVATE KEY-----",
    repeated true 0 none (one fun _ => true), text "-----END", capitals, text "PRIVATE KEY-----"]
  mask := "***PRIVATE_KEY_REDACTED***".toList

/-- Keys of wallets: 64 hexadecimal digits that are no part of a longer word. -/
def walletKey : SecretRule where
  label := .empty
  secret := all [boundary, optional (text "0x"), exactly 64 (one isHex), boundary]
  mask := "***WALLET_KEY_REDACTED***".toList

def letters : Pattern := atLeast 1 (one isAnyLetter)

/-- Seed phrases of twelve to twenty-four words. -/
def seedPhrase : SecretRule where
  label := choice [caseless "mnemonic",
    all [caseless "seed", optional (anyOf ['_', ' ', '-']), caseless "phrase"], caseless "seed"]
  secret := all [assignment, letters,
    repeated false 11 (some 12) (all [atLeast 1 (one isBlank), letters]), quoteMark]
  mask := "=***SEED_REDACTED***".toList

/-- Bearer tokens and values of tokens, of at least twenty characters. -/
def accessToken : SecretRule where
  label := choice [all [caseless "bearer", atLeast 1 (one isBlank)],
    all [caseless "token", assignment]]
  secret := all [atLeast 20 (one isTokenCharacter), quoteMark]
  mask := "***TOKEN_REDACTED***".toList

def password : SecretRule where
  label := choice [caseless "password", caseless "passwd", caseless "pwd"]
  secret := all [assignment, atLeast 1 (one fun c => !isBlank c && c != '"' && c != '\''), quoteMark]
  mask := "=***PASSWORD_REDACTED***".toList

/-- Two words with at most one joining character of the given ones. -/
def joinedWords (first second : String) : Pattern :=
  all [caseless first, optional (anyOf ['_', '-']), caseless second]

/-- Credentials of interfaces, of at least sixteen characters. -/
def credential : SecretRule where
  label := choice [joinedWords "api" "key", joinedWords "api" "secret", joinedWords "secret" "key",
    joinedWords "private" "key"]
  secret := all [assignment, atLeast 16 (one isTokenCharacter), quoteMark]
  mask := "=***REDACTED***".toList

def secretRules : List SecretRule :=
  [keyBlock, walletKey, seedPhrase, accessToken, password, credential]

def redactAll (cs : List Char) : List Char := secretRules.foldl (fun cs rule => rule.apply cs) cs

/-- The text with all secrets masked. -/
def redact (s : String) : String := String.ofList (redactAll s.toList)

/-! ## Lemmas -/

namespace SecretRule

theorem maskFrom_of_none (rule : SecretRule) (before : Option Char) (c : Char) (rest : List Char)
    (h : rule.matchAt? ⟨before, c :: rest⟩ = none) :
    rule.maskFrom before 0 (c :: rest) = c :: rule.maskFrom (some c) 0 rest := by
  simp [maskFrom, h]

end SecretRule

end Teller.Log
