import ScriptedChat.Console.Arguments
import ScriptedChat.Console.Environment

/-!
# Help

A page of help says what the program or one of its commands is for, how it is used, and then
lists its commands, arguments and options in tables.

## Tables

A table has two columns, titles and descriptions, with the descriptions below each other.  At
length, each description stands in lines of its own, with blank lines between the rows.

## Highlighting

Headings stand out, and so does everything that is typed as it is shown, if the page is
shown where that can be seen (`Highlighting.of`).  What a page is made of keeps the two kinds
of text apart, and widths count what is seen.

* `Phrase`, `Row`, `Page`: what a page is made of.
* `HelpTopic.page`: the pages.
* `HelpTopic.text`, `UsageError.message`: what is shown.
-/

namespace ScriptedChat
namespace Console

/-! ## Highlighting -/

/-- Whether headings and literal words stand out. -/
inductive Highlighting where
  | off
  | on
  deriving DecidableEq, Repr

namespace Highlighting

/-- The variable that asks for no highlighting, and counts more. -/
def offVariable : String := "NO_COLOR"

/-- The variable that asks for highlighting. -/
def onVariable : String := "CLICOLOR_FORCE"

/-- What the variables ask for.  An empty one asks for nothing. -/
def of (vars : Variables) : Highlighting :=
  let asks (name : String) : Bool := (Keyed.find? name vars).any fun s => !s.isEmpty
  if asks onVariable && !asks offVariable then .on else .off

/-- A text that is switched on by some codes. -/
def within (h : Highlighting) (codes text : String) : String :=
  match h with
  | off => text
  | on => codes ++ text ++ "\x1b[0m"

/-- A heading, which is bold and underlined. -/
def heading (h : Highlighting) (text : String) : String := h.within "\x1b[1m\x1b[4m" text

/-- A literal word, which is bold. -/
def literal (h : Highlighting) (text : String) : String := h.within "\x1b[1m" text

end Highlighting

/-- A piece of a line. -/
inductive Phrase where
  | plain (text : String)
  /-- What is typed as it is shown. -/
  | literal (text : String)
  deriving DecidableEq, Repr

namespace Phrase

/-- The text that is seen. -/
def seen : Phrase → String
  | plain s => s
  | literal s => s

/-- The text as it is written. -/
def text (h : Highlighting) : Phrase → String
  | plain s => s
  | literal s => h.literal s

end Phrase

/-- How many columns some phrases take. -/
def width (phrases : List Phrase) : Nat := (phrases.map fun p => p.seen.length).foldl (· + ·) 0

/-- Phrases as they are written. -/
def writePhrases (h : Highlighting) (phrases : List Phrase) : String :=
  String.join (phrases.map (Phrase.text h))

/-- A row of a table. -/
structure Row where
  title : List Phrase
  description : String
  /-- The value of an option that is not given. -/
  default : Option String
  deriving DecidableEq, Repr

/-- A page of help.  The titles of options are shifted, so that long names stand below each
other. -/
structure Page where
  about : String
  usage : List Phrase
  commands : List Row
  arguments : List Row
  options : List Row
  /-- Whether it is told at length. -/
  long : Bool
  deriving DecidableEq, Repr

/-! ## Layout -/

/-- Blanks. -/
def blanks (n : Nat) : String := String.ofList (List.replicate n ' ')

/-- The default as it is shown. -/
def Row.defaultNote (r : Row) : Option String := r.default.map fun d => "[default: " ++ d ++ "]"

/-- The description of a row in one line. -/
def Row.line (r : Row) : String :=
  " ".intercalate (r.description :: r.defaultNote.toList)

/-- The width of the titles of a table. -/
def titleWidth (rows : List Row) : Nat := (rows.map fun r => width r.title).foldl max 2

/-- A table whose descriptions stand beside the titles. -/
def compactTable (h : Highlighting) (rows : List Row) : List String :=
  rows.map fun r =>
    "  " ++ writePhrases h r.title ++ blanks (titleWidth rows - width r.title) ++ "  " ++ r.line

/-- A table at length. -/
def longTable (h : Highlighting) (rows : List Row) : List String :=
  let indented (r : Row) : List String :=
    (r.description :: (r.defaultNote.toList.flatMap fun d => ["", d])).map (blanks 10 ++ ·)
  ["\n\n".intercalate
    (rows.map fun r => "\n".intercalate (("  " ++ writePhrases h r.title) :: indented r))]

/-- A table with its heading, if it has rows. -/
def writeTable (h : Highlighting) (heading : String) (long : Bool) (rows : List Row) :
    List String :=
  if rows.isEmpty then []
  else
    let lines := if long then longTable h rows else compactTable h rows
    ["\n".intercalate (h.heading (heading ++ ":") :: lines)]

/-- The text of a page.  Commands are never told at length. -/
def Page.text (h : Highlighting) (p : Page) : String :=
  "\n\n".intercalate
    ([p.about, h.heading "Usage:" ++ " " ++ writePhrases h p.usage]
      ++ writeTable h "Commands" false p.commands
      ++ writeTable h "Arguments" p.long p.arguments ++ writeTable h "Options" p.long p.options)
    ++ "\n"

/-! ## The pages -/

/-- The name of the program. -/
def programName : String := "metabot"

/-- A row without a default. -/
def plainRow (title : List Phrase) (description : String) : Row := ⟨title, description, none⟩

/-- The name of a command as it is written. -/
def CommandName.word : CommandName → String
  | run => "run"
  | check => "check"
  | status => "status"

/-- What a command is for. -/
def CommandName.about : CommandName → String
  | run => "Start the bot for a bot directory and run until Ctrl-C"
  | check => "Parse a scenario document and print its structure"
  | status => "List the persisted chats of a bot directory"

/-- What a command is about. -/
def CommandName.subject : CommandName → Row
  | run =>
    plainRow [.plain "<BOT_DIR>"] "Directory holding `scenario.md`, `.token` and `history/`"
  | check => plainRow [.plain "<SCENARIO>"] "Path to the scenario markdown file"
  | status => plainRow [.plain "<BOT_DIR>"] "Directory holding `history/`"

/-- What the help is for. -/
def aboutHelp : String := "Print this message or the help of the given subcommand(s)"

/-- The title of an option with a value. -/
def valueTitle (name value : String) : List Phrase :=
  [.plain "    ", .literal ("--" ++ name), .plain (" <" ++ value ++ ">")]

/-- The title of an option with a short name and no value. -/
def flagTitle (letter name : String) : List Phrase :=
  [.literal ("-" ++ letter), .plain ", ", .literal ("--" ++ name)]

/-- The option of the log level. -/
def logLevelRow : Row :=
  ⟨valueTitle "log-level" "LOG_LEVEL", "Log level used when `RUST_LOG` is not set", some "info"⟩

/-- The option that asks for help. -/
def helpRow (description : String) : Row := plainRow (flagTitle "h" "help") description

/-- The options that only one command has. -/
def CommandName.ownOptions : CommandName → List Row
  | run =>
    [plainRow (valueTitle "poll-timeout" "POLL_TIMEOUT")
      "Telegram long-polling timeout in seconds (overrides `metabot.toml`)"]
  | _ => []

/-- The page of a command. -/
def CommandName.page (c : CommandName) : Page :=
  { about := c.about
    usage := [.literal (programName ++ " " ++ c.word), .plain " [OPTIONS] "] ++ c.subject.title
    commands := []
    arguments := [c.subject]
    options := [logLevelRow] ++ c.ownOptions ++ [helpRow "Print help"]
    long := false }

/-- The page of the program. -/
def programPage (brief : Bool) : Page :=
  let helpNote :=
    if brief then "Print help (see more with '--help')" else "Print help (see a summary with '-h')"
  { about :=
      if brief then "Metabot -- scripted Telegram conversations"
      else
        "Plays a markdown scenario as a Telegram bot: every chat walks its own path "
          ++ "through the scenario's steps, with timers that survive restarts."
    usage := [.literal programName, .plain " [OPTIONS] <COMMAND>"]
    commands :=
      ([CommandName.run, .check, .status].map fun c => plainRow [.literal c.word] c.about)
        ++ [plainRow [.literal helpWord] aboutHelp]
    arguments := []
    options :=
      [logLevelRow, helpRow helpNote, plainRow (flagTitle "V" "version") "Print version"]
    long := !brief }

/-- The page of the help. -/
def helpPage : Page :=
  { about := aboutHelp
    usage := [.literal (programName ++ " " ++ helpWord), .plain " [COMMAND]..."]
    commands := []
    arguments := [plainRow [.plain "[COMMAND]..."] "Print help for the subcommand(s)"]
    options := []
    long := false }

/-- The page of a topic. -/
def HelpTopic.page : HelpTopic → Page
  | program brief => programPage brief
  | command name => name.page
  | help => helpPage

/-- The text of a topic. -/
def HelpTopic.text (h : Highlighting) (t : HelpTopic) : String := t.page.text h

/-! ## Other things that are shown -/

/-- The text that tells the version. -/
def versionText : String := programName ++ " 0.1.0\n"

/-- What is said when nothing can be done. -/
def UsageError.message (h : Highlighting) : UsageError → String
  | displayHelp topic => topic.text h
  | displayVersion => versionText
  | nothingGiven => (HelpTopic.program true).text h
  | missingCommand => "error: a command is missing\n"
  | missingRequired => "error: the command lacks its argument\n"
  | invalidValue => "error: a value is missing or empty\n"
  | valueValidation => "error: a value is no number\n"
  | unknownArgument => "error: an argument is unknown\n"
  | argumentConflict => "error: an option is given twice\n"
  | invalidCommand => "error: no command has this name\n"
  | tooManyValues => "error: an option takes no value\n"

end Console
end ScriptedChat
