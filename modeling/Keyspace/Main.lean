import Keyspace.Sampling.Feed
import Keyspace.Showcase

/-!
The command line: it prints the tour over the default settings, with keys drawn from a new seed each
time.
-/

/-- Prints the tour; a failure goes to the error stream and makes the exit status one. -/
def main : IO UInt32 := do
  let seed ← IO.rand 0 0x3fffffffffffffff
  let tour := Keyspace.Showcase.ofCount {} .info .absent
  let part := tour.all Keyspace.Sampling.Feed.source (.congruential (UInt64.ofNat seed))
  IO.print (String.ofList (part.output.map Char.ofNat))
  match part.failure with
  | none => return 0
  | some e =>
    IO.eprintln (String.ofList (e.message.map Char.ofNat))
    return 1
