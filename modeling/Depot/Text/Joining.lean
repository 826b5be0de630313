import Depot.Text.Span
/-!
# Joining

Letters of cursive scripts are joined to their neighbours: some to both, some only
to the letter before them, some only to the letter after them. The tables hold the
letters of everyday Arabic and Syriac, of Mongolian and of Phags-pa.
-/
namespace Depot.Text

/-- The letters that are joined on both sides. -/
def dualJoiningTable : String := "
620 626 628 62A-62E 633-63F 641-647 649-64A 66E-66F 678-687 69A-6BF 6C1-6C2 6CC 6CE 6D0-6D1 6FA-6FC
6FF 712-714 71A-71D 71F-727 729 72B 72D-72E 74E-758 75C-766 850-853 855 8A0 8A2-8A9 1807 1820-1877
1887-18A8 18AA A840-A871"

def dualJoiningSpans : Array (Span Unit) := Span.table (fun _ => ()) dualJoiningTable

/-- The letters that are joined to the letter before them only. -/
def backwardJoiningTable : String := "
622-625 627 629 62F-632 648 671-673 675-677 688-699 6C0 6C3-6CB 6CD 6CF 6D2-6D3 6D5 6EE-6EF 710
715-719 71E 728 72A 72C 72F 74D 759-75B 854 8AA-8AC"

def backwardJoiningSpans : Array (Span Unit) := Span.table (fun _ => ()) backwardJoiningTable

/-- The letter that is joined to the one after it only. -/
def forwardJoining : Char := '\uA872'

/-- Whether a letter is joined to the one after it. -/
def joinsForward (c : Char) : Bool := c = forwardJoining || Span.covers dualJoiningSpans c

/-- Whether a letter is joined to the one before it. -/
def joinsBackward (c : Char) : Bool :=
  Span.covers backwardJoiningSpans c || Span.covers dualJoiningSpans c

end Depot.Text
