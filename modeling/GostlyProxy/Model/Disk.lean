/-
The mock directory and its reloads (`io.rs`).

A directory is the map from the names of its readable files to their
texts. Input and output succeed: a file that cannot be read is a file that
is not there, and a directory that cannot be listed is an empty one, which
is how the source treats both.

# Loading one file

`loadOneSegment` reads the file, keeps the last line of every key, writes
the kept entries to the `.tmp` file and renames it over the original. It
rewrites whenever a line parsed, also when there is nothing to drop.
`readMocks`, `compact` and `tmpName` are its steps, named because the
interleavings of `Proofs/MockLog.lean` and the events of
`Proofs/Watcher.lean` run them one by one.
-/
import GostlyProxy.Model.Library

namespace GostlyProxy

open Lib

-- ========================================================= entries as text

/-- `serde_json` on mock entries: one line from an entry and back. -/
structure EntryCodec where
  parse : Text → Option MockEntry
  print : MockEntry → Text

/-- What the JSON library promises of a derived codec: an entry is printed
on one line, and the line is read back as the entry. -/
structure EntryCodec.Lawful (codec : EntryCodec) : Prop where
  parse_print : ∀ e, codec.parse (codec.print e) = some e
  isLine_print : ∀ e, Text.IsLine (codec.print e)

-- ============================================================= file names

def mockPrefix : Text := "mock_"
def mockSuffix : Text := ".jsonl"

/-- `mock_{svc_id}.jsonl`. -/
def mockFileName (svcId : Text) : Text := mockPrefix ++ (svcId ++ mockSuffix)

/-- The service id in a mock file's name; `none` for any other name. -/
def svcIdOf (fname : Text) : Option Text :=
  if Text.startsWith fname mockPrefix && Text.endsWith fname mockSuffix then
    some ((fname.drop mockPrefix.length).take
      (fname.length - mockPrefix.length - mockSuffix.length))
  else none

/-- `format!("{}.tmp", path)`. -/
def tmpName (fname : Text) : Text := fname ++ (".tmp" : Text)

-- =============================================================== contents

/-- The entries of a file's parseable lines, in line order. -/
def parseLines (codec : EntryCodec) (content : Text) : List MockEntry :=
  (Text.lines content).filterMap codec.parse

/-- The map a file's text stands for: last write wins. -/
def readMocks (codec : EntryCodec) (content : Text) : ServiceMocks :=
  HashMap.collect ((parseLines codec content).map fun e => (e.key, e))

/-- The text a map is compacted to: one line per key. -/
def compact (codec : EntryCodec) (rs : RandomState) (svcMocks : ServiceMocks) : Text :=
  Text.join ['\n'] ((rs.values svcMocks).map codec.print) ++ ['\n']

-- ============================================================ the directory

/-- The readable files of `mock_dir`, by name. -/
abbrev Dir := HashMap Text Text

/-- `tokio::fs::write` then `rename` over the original. -/
def replaceFile (dir : Dir) (fname content : Text) : Dir :=
  ((dir.insert (tmpName fname) content).erase (tmpName fname)).insert fname content

def loadOneSegment (codec : EntryCodec) (rs : RandomState) (dir : Dir) (fname : Text) :
    Dir × Option (Text × MockSegment) :=
  match svcIdOf fname with
  | none => (dir, none)
  | some svcId =>
      match dir.lookup fname with
      | none => (dir, none)
      | some content =>
          let svcMocks := readMocks codec content
          if svcMocks.size = 0 then (dir, none)
          else (replaceFile dir fname (compact codec rs svcMocks),
            some (svcId, { services := Finmap.singleton svcId svcMocks }))

/-- One file of the directory scan of `load_all_service_mocks`. -/
def loadNext (codec : EntryCodec) (rs : RandomState) (acc : Dir × MockLibrary)
    (fname : Text) : Dir × MockLibrary :=
  match loadOneSegment codec rs acc.1 fname with
  | (dir, some (svcId, segment)) =>
      (dir, { segments := acc.2.segments.insert svcId segment })
  | (dir, none) => (dir, acc.2)

def loadAllServiceMocks (codec : EntryCodec) (rs : RandomState) (dir : Dir) :
    Dir × MockLibrary :=
  ((rs.iter dir).map (·.1)).foldl (loadNext codec rs) (dir, MockLibrary.new)

/-- `reload_full`: the library of the directory, whatever was live. -/
def reloadFull (codec : EntryCodec) (rs : RandomState) (dir : Dir) : Dir × MockLibrary :=
  loadAllServiceMocks codec rs dir

/-- `reload_one_file`: rebuild or drop the one segment the path names. -/
def reloadOneFile (codec : EntryCodec) (rs : RandomState) (dir : Dir) (fname : Text)
    (current : MockLibrary) : Dir × MockLibrary :=
  match svcIdOf fname with
  | none => (dir, current)
  | some svcId =>
      let (dir, segment) := loadOneSegment codec rs dir fname
      (dir, current.setSegment svcId (segment.map (·.2)))

/-- `append_to_mock_log`: one line, with its line feed, at the file's end. -/
def appendToMockLog (dir : Dir) (svcId line : Text) : Dir :=
  let fname := mockFileName svcId
  dir.insert fname ((dir.lookup fname).getD [] ++ (line ++ ['\n']))

end GostlyProxy
