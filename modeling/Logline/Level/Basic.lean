import Logline.Color

/-! # Levels

A level is an ordinal. Twelve of them are built in; their titles, tags, colours and aliases are
the rows of a table. A lower ordinal is more severe, and a record passes a threshold that is at
least its own ordinal.
-/

namespace Logline

structure Level where
  ordinal : Int
  deriving DecidableEq, Repr

namespace Level

/-- The level whose record ends in a panic. -/
def panic : Level := ⟨0⟩

/-- The level whose record ends the process. -/
def fatal : Level := ⟨1⟩
def error : Level := ⟨2⟩
def warn : Level := ⟨3⟩
def info : Level := ⟨4⟩
def debug : Level := ⟨5⟩
def trace : Level := ⟨6⟩

def off : Level := ⟨7⟩

def always : Level := ⟨8⟩
def ok : Level := ⟨9⟩
def success : Level := ⟨10⟩
def fail : Level := ⟨11⟩

instance : Inhabited Level := ⟨info⟩

end Level

def maxTagWidth : Nat := 5

def lineTagWidth : Nat := 3

structure LevelInfo where
  level : Level
  title : String
  /-- One tag for each width from one on. -/
  tags : List String
  foreground : Option Color
  background : Option Color
  treatAs : Option Level
  errorStream : Bool
  deriving DecidableEq, Repr, Inhabited

def clampTagWidth (width : Nat) : Nat := min (max width 1) maxTagWidth

def LevelInfo.tag (info : LevelInfo) (width : Nat) : String :=
  info.tags.getD (clampTagWidth width - 1) ""

private def row (level : Level) (title : String) (tags : List String) (color : Color)
    (treatAs : Option Level) (errorStream : Bool) : LevelInfo :=
  ⟨level, title, tags, some color, none, treatAs, errorStream⟩

def builtinLevels : List LevelInfo := [
  row .panic "panic" ["P", "PN", "PNC", "PANC", "PANIC"] (.named .magenta true) none true,
  row .fatal "fatal" ["F", "FT", "FTL", "FATL", "FATAL"] (.named .red true) none true,
  row .error "error" ["E", "ER", "ERR", "ERRO", "ERROR"] (.named .red false) none true,
  row .warn "warn" ["W", "WN", "WRN", "WARN", "WARN "] (.named .yellow false) none true,
  row .info "info" ["I", "IN", "INF", "INFO", "INFO "] (.named .green false) none false,
  row .debug "debug" ["D", "DB", "DBG", "DEBG", "DEBUG"] (.named .blue false) none false,
  row .trace "trace" ["T", "TR", "TRC", "TRCE", "TRACE"] (.named .black true) none false,
  row .off "off" ["O", "OF", "OFF", "OFF ", "OFF  "] (.named .white false) none false,
  row .always "always" ["A", "AL", "ANY", "ALWY", "ALWYS"] (.named .white false) none false,
  row .ok "ok" ["K", "OK", "OK ", "OK  ", "OK   "] (.named .green false) (some .info) false,
  row .success "success" ["S", "SC", "SUC", "SUCC", "SUCCS"] (.named .green true)
    (some .info) false,
  row .fail "fail" ["F", "FL", "FAI", "FAIL", "FAIL "] (.named .red false) (some .error) true]

end Logline
