import CommandConsole.Text.Bytes
import CommandConsole.Text.Cluster

/-!
# Typed lines

A line of input can hold backspaces: each erases what a reader takes for the last character, a
cluster of the text so far. The clusters are those of the line as it was typed, so a mark behind a
backspace does not join what stands before it. The number of bytes of a cluster is kept in a byte
of its own, so less is erased of one that is longer.
-/

set_option autoImplicit false

namespace CommandConsole.Line

open Text (bytesOf clusters)

/-- The backspace. -/
def backspace : Char := '\x08'

/-- The number of bytes of a cluster as it is kept. -/
def keptSize (cluster : List Char) : Nat := (bytesOf cluster).length % 256

/-- A text, given last character first, without so many bytes at its end. -/
def dropBytes : Nat → List Char → List Char
  | 0, cs => cs
  | _, [] => []
  | n + 1, c :: r => dropBytes (n + 1 - c.utf8Size) r
termination_by _ cs => cs.length

/-- What is left of clusters: the text so far, last character first, and the sizes of the clusters
in it that can be erased, last one first. -/
def typedFrom : (held : List Char) → (sizes : List Nat) → List (List Char) → List Char
  | held, _, [] => held.reverse
  | held, sizes, cluster :: r =>
      if cluster = [backspace] then
        match sizes with
        | [] => typedFrom held [] r
        | size :: sizes => typedFrom (dropBytes size held) sizes r
      else typedFrom (cluster.reverse ++ held) (keptSize cluster :: sizes) r

/-- **A line as it stands when it has been typed.** -/
def typed (cs : List Char) : List Char :=
  if cs.contains backspace then typedFrom [] [] (clusters cs) else cs

end CommandConsole.Line
