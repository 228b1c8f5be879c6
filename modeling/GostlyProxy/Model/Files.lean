/-
The other files. Of line-delimited JSON: the sequences and the traffic log
(`io.rs`), the captured resources (`resource_store.rs`) and the wide events
(`wide_events.rs`). Of one word: the mode (`io.rs`).

As in `Disk.lean`, a directory is the map from the names of its readable
files to their texts, and input and output succeed.

# Appending

`append_to_traffic_log`, like `append_to_mock_log`, hands a record and its
line feed to one write. `persist_jsonl` and `wide_events::append` make two
writes of them; they are given as the list of their writes, which other
writers of the file can come between.
-/
import GostlyProxy.Lib.LineCodec
import GostlyProxy.Model.Admin
import GostlyProxy.Model.Disk

namespace GostlyProxy

open Lib

-- ============================================================= sequences

/-- `serde_json` on sequences. -/
abbrev SequenceCodec := LineCodec MockSequence

def loadSequences (codec : SequenceCodec) (dir : Dir) (path : Text) : List MockSequence :=
  match dir.lookup path with
  | some content => codec.parseLines content
  | none => []

/-- The text the sequences are saved as. -/
def sequencesText (codec : SequenceCodec) (seqs : List MockSequence) : Text :=
  Text.join ['\n'] (seqs.map codec.print) ++ (if seqs.isEmpty then [] else ['\n'])

def saveSequences (codec : SequenceCodec) (dir : Dir) (path : Text)
    (seqs : List MockSequence) : Dir :=
  replaceFile dir path (sequencesText codec seqs)

/-- The admin calls that leave a save behind, of the list they took under
the lock. -/
inductive SequenceCall where
  | create (seq : MockSequence)
  | delete (id : Text)

def SequenceCall.admin : SequenceCall → AdminCall
  | .create seq => .createSequence seq
  | .delete id => .deleteSequence id

/-- The state after the call, and the snapshot that is saved. -/
def handleSequenceCall (st : AppState) (call : SequenceCall) :
    AppState × List (List MockSequence) :=
  let st' := (handleAdmin st call.admin).1
  (st', [st'.sequences])

-- ============================================================ traffic log

/-- `traffic_{svc_id}.jsonl`. -/
def trafficFileName (svcId : Text) : Text :=
  ("traffic_" : Text) ++ (svcId ++ (".jsonl" : Text))

def appendToTrafficLog (dir : Dir) (svcId line : Text) : Dir :=
  let fname := trafficFileName svcId
  dir.insert fname ((dir.lookup fname).getD [] ++ (line ++ ['\n']))

-- ============================================================= resources

/-- `serde_json` on captured resources. -/
abbrev ResourceCodec := LineCodec ResourceState

def resourceSuffix : Text := ".jsonl"

/-- `{svc_id}.jsonl`. -/
def resourceFileName (svcId : Text) : Text := svcId ++ resourceSuffix

/-- A name without a separator names a file of the directory itself. -/
def isFileName (name : Text) : Bool := name.all fun c => c ≠ '/' && c ≠ '\x00'

/-- The writes of `persist_jsonl`. -/
def persistWrites (codec : ResourceCodec) (state : ResourceState) : List Text :=
  [codec.print state, ['\n']]

/-- `persist_jsonl` with its writes in a row. A service whose name is a path
has no file in the directory. -/
def persistJsonl (codec : ResourceCodec) (dir : Dir) (svcId : Text)
    (state : ResourceState) : Dir :=
  let fname := resourceFileName svcId
  if isFileName fname then
    dir.insert fname ((dir.lookup fname).getD [] ++ (persistWrites codec state).flatten)
  else dir

/-- The lines of a resource file that are looked at. -/
def rawLines (content : Text) : List Text :=
  (Text.lines content).filter fun l => !(Text.trim l).isEmpty

/-- The resources of a file's parseable lines, in line order. -/
def parseResources (codec : ResourceCodec) (content : Text) : List ResourceState :=
  (rawLines content).filterMap codec.parse

/-- The bucket a file's text stands for: last write wins. -/
def readResources (codec : ResourceCodec) (content : Text) : ServiceResources :=
  HashMap.collect ((parseResources codec content).map fun r => ((r.collection, r.id), r))

/-- One file of the scan of `load_from_disk`. -/
def loadResourceFile (codec : ResourceCodec) (rs : RandomState)
    (acc : Dir × HashMap Text ServiceResources) (fname : Text) :
    Dir × HashMap Text ServiceResources :=
  if Text.endsWith fname resourceSuffix then
    match acc.1.lookup fname with
    | none => acc
    | some content =>
        let bucket := readResources codec content
        if bucket.size = 0 then acc
        else
          let dir := if bucket.size < (rawLines content).length then
              replaceFile acc.1 fname
                (Text.join ['\n'] ((rs.values bucket).map codec.print) ++ ['\n'])
            else acc.1
          (dir, acc.2.insert (Text.trimEndMatches resourceSuffix fname) bucket)
  else acc

/-- `load_from_disk` on the resource directory. -/
def ResourceStore.loadFromDisk (codec : ResourceCodec) (rs : RandomState) (dir : Dir)
    (store : ResourceStore) : Dir × ResourceStore :=
  let out := ((rs.iter dir).map (·.1)).foldl (loadResourceFile codec rs)
    (dir, store.byService)
  (out.1, { store with byService := out.2 })

-- ============================================================== the mode

/-- The variant of a name in upper case, as `serde` renames them. -/
def Mode.ofName (name : Text) : Option Mode :=
  if name = "LEARN" then some .learn
  else if name = "MOCK" then some .mock
  else if name = "PASSTHROUGH" then some .passthrough
  else if name = "TRANSITIONING" then some .transitioning
  else none

/-- The mode file after a write that succeeds; `none` is a file that cannot
be read. -/
def writeModeToFile (file : Option Text) : Mode → Option Text
  | .learn => some "LEARN"
  | .mock => some "MOCK"
  | .passthrough => some "PASSTHROUGH"
  | .transitioning => file

/-- The trimmed text of the file, read as a JSON string. What a text
between quotes parses as is a string. -/
def readModeFromFile (env : Externals) (file : Option Text) : Option Mode :=
  file.bind fun c =>
    match env.parseJson ('"' :: (Text.trim c ++ ['"'])) with
    | some (.string name) => Mode.ofName name
    | _ => none

-- ============================================================ wide events

/-- One wide-event line. -/
structure WideEvent where
  id : Text
  ts : Text
  eventType : Text
  serviceId : Option Text
  /-- The attributes, sorted by name. -/
  attrs : List (Text × Json)

/-- `serde_json` on wide events. -/
abbrev WideEventCodec := LineCodec WideEvent

/-- The writes of `wide_events::append`. -/
def wideEventWrites (codec : WideEventCodec) (event : WideEvent) : List Text :=
  [codec.print event, ['\n']]

end GostlyProxy
