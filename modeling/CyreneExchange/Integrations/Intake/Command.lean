import CyreneExchange.Integrations.Outbox.Store

/-! The fixed grammar of chat commands, split into words as a POSIX shell
splits them. -/
namespace CyreneExchange.Integrations

/-- Where `shlex` stands: between words, in a word, inside quotes, or after a
backslash, which inside quotes remembers them. -/
inductive LexState where
  | blank
  | word
  | quoted (quote : Char)
  | escaped (within : Option Char)
deriving DecidableEq, Repr

def shlexSpace (c : Char) : Bool := c == ' ' || c == '\t' || c == '\r' || c == '\n'

/-- A finished token counts when it has text or was quoted. -/
def shlexToken (token : List Char) (seenQuote : Bool) : List String :=
  if token.isEmpty && !seenQuote then [] else [String.ofList token]

/-- `shlex.split(text, posix=True)` from a state in the middle of a token;
nothing when a quotation or an escape is left open. -/
def shlexFrom : LexState → List Char → Bool → List Char → Option (List String)
  | .blank, token, seenQuote, [] => some (shlexToken token seenQuote)
  | .word, token, seenQuote, [] => some (shlexToken token seenQuote)
  | .quoted _, _, _, [] => none
  | .escaped _, _, _, [] => none
  | .blank, token, seenQuote, c :: rest =>
      if shlexSpace c then
        (shlexFrom .blank [] false rest).map (shlexToken token seenQuote ++ ·)
      else if c = '\\' then shlexFrom (.escaped none) token seenQuote rest
      else if c = '"' ∨ c = '\'' then shlexFrom (.quoted c) token seenQuote rest
      else shlexFrom .word [c] seenQuote rest
  | .word, token, seenQuote, c :: rest =>
      if shlexSpace c then
        (shlexFrom .blank [] false rest).map (shlexToken token seenQuote ++ ·)
      else if c = '"' ∨ c = '\'' then shlexFrom (.quoted c) token seenQuote rest
      else if c = '\\' then shlexFrom (.escaped none) token seenQuote rest
      else shlexFrom .word (token ++ [c]) seenQuote rest
  | .quoted quote, token, _, c :: rest =>
      if c = quote then shlexFrom .word token true rest
      else if c = '\\' ∧ quote = '"' then shlexFrom (.escaped (some quote)) token true rest
      else shlexFrom (.quoted quote) (token ++ [c]) true rest
  | .escaped within, token, seenQuote, c :: rest =>
      match within with
      | none => shlexFrom .word (token ++ [c]) seenQuote rest
      | some quote =>
          let kept := if c ≠ '\\' ∧ c ≠ quote then token ++ ['\\'] else token
          shlexFrom (.quoted quote) (kept ++ [c]) seenQuote rest

def shlexSplit (text : String) : Option (List String) := shlexFrom .blank [] false text.toList

/-- A syntactically validated fixed operation and bounded arguments. -/
structure ParsedIssueCommand where
  operationId : IssueCapability
  issueNumber : Int
  body : Option String := none
deriving DecidableEq, Repr

/-- What an issue number keeps after its optional hash sign. -/
def issueDigits (text : String) : List Char :=
  match text.toList with
  | '#' :: rest => rest
  | rest => rest

/-- `_ISSUE_NUMBER.fullmatch`: one to nine digits that do not start with zero. -/
def parseIssueNumber (text : String) : Option Int :=
  match issueDigits text with
  | [] => none
  | first :: rest =>
      if first ≠ '0' ∧ (first :: rest).all Char.isDigit = true ∧ rest.length ≤ 8 then
        some (Nat.ofDigitChars 10 (first :: rest) 0)
      else none

/-- `parse_issue_command`. A character that is not ASCII cannot lower to a
letter of any action name. -/
def parseIssueCommand (command : String) : Except StoreError ParsedIssueCommand :=
  if strip command = "" then .error (.validation "command must be non-empty text")
  else if 4096 < command.length then .error (.validation "command exceeds the size limit")
  else match shlexSplit command with
    | none => .error (.validation "command quoting is invalid")
    | some ("/issue" :: action :: number :: rest) =>
        match parseIssueNumber number with
        | none => .error (.validation "issue number is invalid")
        | some issueNumber =>
            if action.toLower = "comment" then
              let body := strip (String.intercalate " " rest)
              if body = "" ∨ 4000 < body.length then
                .error (.validation "comment body must contain 1 to 4000 characters")
              else .ok ⟨.comment, issueNumber, some body⟩
            else if rest ≠ [] then
              .error (.validation "this issue action does not accept extra arguments")
            else if action.toLower = "query" then .ok ⟨.query, issueNumber, none⟩
            else if action.toLower = "close" then .ok ⟨.close, issueNumber, none⟩
            else if action.toLower = "reopen" then .ok ⟨.reopen, issueNumber, none⟩
            else .error (.validation "unsupported issue action")
    | some _ => .error (.validation "command must use /issue <action> <number>")

end CyreneExchange.Integrations
