import RouteTable.Regex.CharSet

/-!
# Case folding

Two characters are equal up to case when their simple case foldings agree. `orbits` lists the
classes of that relation that hold more than one character, so a set is closed under case by
adding every class it meets, once.
-/

namespace RouteTable.Regex.Unicode

/-- The classes in ascending order of their least members. A class is written as the distance of
its least member from the one before, then the distances between its members. -/
def orbitText : String :=
  "41 20; 1 20; 1 20; 1 20; 1 20; 1 20; 1 20; 1 20; 1 20; 1 20; 1 20 20BF; 1 20; 1 20; 1 20; 1
  20; 1 20; 1 20; 1 20; 1 20 10C; 1 20; 1 20; 1 20; 1 20; 1 20; 1 20; 1 20; 5B 2E7 20; B 20; 1
  20; 1 20; 1 20; 1 20; 1 20 2046; 1 20; 1 20; 1 20; 1 20; 1 20; 1 20; 1 20; 1 20; 1 20; 1 20; 1
  20; 1 20; 1 20; 1 20; 1 20; 1 20; 1 20; 2 20; 1 20; 1 20; 1 20; 1 20; 1 20; 1 20; 1 1DBF; 20
  79; 1 1; 2 1; 2 1; 2 1; 2 1; 2 1; 2 1; 2 1; 2 1; 2 1; 2 1; 2 1; 2 1; 2 1; 2 1; 2 1; 2 1; 2 1;
  2 1; 2 1; 2 1; 2 1; 2 1; 2 1; 4 1; 2 1; 2 1; 3 1; 2 1; 2 1; 2 1; 2 1; 2 1; 2 1; 2 1; 3 1; 2 1;
  2 1; 2 1; 2 1; 2 1; 2 1; 2 1; 2 1; 2 1; 2 1; 2 1; 2 1; 2 1; 2 1; 2 1; 2 1; 2 1; 2 1; 2 1; 2 1;
  2 1; 2 1; 3 1; 2 1; 2 1; 3 C3; 1 D2; 1 1; 2 1; 2 CE; 1 1; 2 CD; 1 CD; 1 1; 3 4F; 1 CA; 1 CB; 1
  1; 2 CD; 1 CF; 1 61; 1 D3; 1 D1; 1 1; 2 A3; 1 A641; 1 D3; 1 D5; 1 82; 1 D6; 1 1; 2 1; 2 1; 2
  DA; 1 1; 2 DA; 3 1; 2 DA; 1 1; 2 D9; 1 D9; 1 1; 2 1; 2 DB; 1 1; 4 1; 3 38; 5 1 1; 3 1 1; 3 1
  1; 3 1; 2 1; 2 1; 2 1; 2 1; 2 1; 2 1; 2 1; 3 1; 2 1; 2 1; 2 1; 2 1; 2 1; 2 1; 2 1; 2 1; 3 1 1;
  3 1; 4 1; 2 1; 2 1; 2 1; 2 1; 2 1; 2 1; 2 1; 2 1; 2 1; 2 1; 2 1; 2 1; 2 1; 2 1; 2 1; 2 1; 2 1;
  2 1; 2 1; 4 1; 2 1; 2 1; 2 1; 2 1; 2 1; 2 1; 2 1; 2 1; 8 2A2B; 1 1; 3 2A28; 1 2A3F; 1 2A3F; 1
  1; 3 45; 1 47; 1 1; 2 1; 2 1; 2 1; 2 1; 2 2A1F; 1 2A1C; 1 2A1E; A A54F; 5 A54B; 3 A567; 1
  A528; 1 A544; 4 A544; 1 29F7; 1 A541; 5 29FD; C 29E7; 5 A543; 5 A52A; 16 A515; 1 A512; A7 54
  20 1C05; 2B 1; 2 1; 4 1; 5 82; 1 82; 1 82; 2 74; 7 26; 2 25; 1 25; 1 25; 2 40; 2 3F; 1 3F; 1
  1C43; 1 20; 1 20 1E; 1 20; 1 20; 1 20 40; 1 20; 1 20; 1 20 19 23; 2 20 36; 1 20; 2 20; 1 20; 1
  20; 1 20 16; 1 20 30; 2 1F 1; 1 20; 1 20; 1 20 F; 1 20; 1 20; 1 20 1D5D; 1 20; 1 20; 5 1C33;
  1F 8; 9 1; 2 1; 2 1; 2 1; 2 1; 2 1; 2 1; 2 1; 2 1; 2 1; 2 1; 2 1; 4 7; 5 1; 3 1; 6 50; 1 50; 1
  50; 1 50; 1 50; 1 50; 1 50; 1 50; 1 50; 1 50; 1 50; 1 50; 1 50; 1 50; 1 50; 1 50; 1 20; 1 20;
  1 20 184E; 1 20; 1 20 184D; 1 20; 1 20; 1 20; 1 20; 1 20; 1 20; 1 20; 1 20; 1 20; 1 20 1844; 1
  20; 1 20; 1 20 1842; 1 20 1842 1; 1 20; 1 20; 1 20; 1 20; 1 20; 1 20; 1 20; 1 20 183C; 1 20; 1
  20; 1 20; 1 20; 1 20; 31 1; 2 1 1824; 2 1; 2 1; 2 1; 2 1; 2 1; 2 1; 2 1; 2 1; 2 1; 2 1; 2 1; 2
  1; 2 1; 2 1; 2 1; A 1; 2 1; 2 1; 2 1; 2 1; 2 1; 2 1; 2 1; 2 1; 2 1; 2 1; 2 1; 2 1; 2 1; 2 1; 2
  1; 2 1; 2 1; 2 1; 2 1; 2 1; 2 1; 2 1; 2 1; 2 1; 2 1; 2 1; 2 F; 1 1; 2 1; 2 1; 2 1; 2 1; 2 1; 2
  1; 3 1; 2 1; 2 1; 2 1; 2 1; 2 1; 2 1; 2 1; 2 1; 2 1; 2 1; 2 1; 2 1; 2 1; 2 1; 2 1; 2 1; 2 1; 2
  1; 2 1; 2 1; 2 1; 2 1; 2 1; 2 1; 2 1; 2 1; 2 1; 2 1; 2 1; 2 1; 2 1; 2 1; 2 1; 2 1; 2 1; 2 1; 2
  1; 2 1; 2 1; 2 1; 2 1; 2 1; 2 1; 2 1; 2 1; 2 1; 2 1; 3 30; 1 30; 1 30; 1 30; 1 30; 1 30; 1 30;
  1 30; 1 30; 1 30; 1 30; 1 30; 1 30; 1 30; 1 30; 1 30; 1 30; 1 30; 1 30; 1 30; 1 30; 1 30; 1
  30; 1 30; 1 30; 1 30; 1 30; 1 30; 1 30; 1 30; 1 30; 1 30; 1 30; 1 30; 1 30; 1 30; 1 30; 1 30;
  B4A 1C60; 1 1C60; 1 1C60; 1 1C60; 1 1C60; 1 1C60; 1 1C60; 1 1C60; 1 1C60; 1 1C60; 1 1C60; 1
  1C60; 1 1C60; 1 1C60; 1 1C60; 1 1C60; 1 1C60; 1 1C60; 1 1C60; 1 1C60; 1 1C60; 1 1C60; 1 1C60;
  1 1C60; 1 1C60; 1 1C60; 1 1C60; 1 1C60; 1 1C60; 1 1C60; 1 1C60; 1 1C60; 1 1C60; 1 1C60; 1
  1C60; 1 1C60; 1 1C60; 1 1C60; 2 1C60; 6 1C60; 3 BC0; 1 BC0; 1 BC0; 1 BC0; 1 BC0; 1 BC0; 1 BC0;
  1 BC0; 1 BC0; 1 BC0; 1 BC0; 1 BC0; 1 BC0; 1 BC0; 1 BC0; 1 BC0; 1 BC0; 1 BC0; 1 BC0; 1 BC0; 1
  BC0; 1 BC0; 1 BC0; 1 BC0; 1 BC0; 1 BC0; 1 BC0; 1 BC0; 1 BC0; 1 BC0; 1 BC0; 1 BC0; 1 BC0; 1
  BC0; 1 BC0; 1 BC0; 1 BC0; 1 BC0; 1 BC0; 1 BC0; 1 BC0; 1 BC0; 1 BC0; 3 BC0; 1 BC0; 1 BC0; 2A1
  97D0; 1 97D0; 1 97D0; 1 97D0; 1 97D0; 1 97D0; 1 97D0; 1 97D0; 1 97D0; 1 97D0; 1 97D0; 1 97D0;
  1 97D0; 1 97D0; 1 97D0; 1 97D0; 1 97D0; 1 97D0; 1 97D0; 1 97D0; 1 97D0; 1 97D0; 1 97D0; 1
  97D0; 1 97D0; 1 97D0; 1 97D0; 1 97D0; 1 97D0; 1 97D0; 1 97D0; 1 97D0; 1 97D0; 1 97D0; 1 97D0;
  1 97D0; 1 97D0; 1 97D0; 1 97D0; 1 97D0; 1 97D0; 1 97D0; 1 97D0; 1 97D0; 1 97D0; 1 97D0; 1
  97D0; 1 97D0; 1 97D0; 1 97D0; 1 97D0; 1 97D0; 1 97D0; 1 97D0; 1 97D0; 1 97D0; 1 97D0; 1 97D0;
  1 97D0; 1 97D0; 1 97D0; 1 97D0; 1 97D0; 1 97D0; 1 97D0; 1 97D0; 1 97D0; 1 97D0; 1 97D0; 1
  97D0; 1 97D0; 1 97D0; 1 97D0; 1 97D0; 1 97D0; 1 97D0; 1 97D0; 1 97D0; 1 97D0; 1 97D0; 1 8; 1
  8; 1 8; 1 8; 1 8; 1 8; 893 89C2 1; 1 1; F0 8A04; 4 EE6; 11 8A38; 72 1; 2 1; 2 1; 2 1; 2 1; 2
  1; 2 1; 2 1; 2 1; 2 1; 2 1; 2 1; 2 1; 2 1; 2 1; 2 1; 2 1; 2 1; 2 1; 2 1; 2 1; 2 1; 2 1; 2 1; 2
  1; 2 1; 2 1; 2 1; 2 1; 2 1; 2 1; 2 1; 2 1; 2 1; 2 1; 2 1; 2 1; 2 1; 2 1; 2 1; 2 1; 2 1; 2 1; 2
  1; 2 1; 2 1; 2 1; 2 1; 2 1 3A; 2 1; 2 1; 2 1; 2 1; 2 1; 2 1; 2 1; 2 1; 2 1; 2 1; 2 1; 2 1; 2
  1; 2 1; 2 1; 2 1; 2 1; 2 1; 2 1; 2 1; 2 1; 2 1; 2 1; 2 1; 2 1; 2 1; C 1; 2 1; 2 1; 2 1; 2 1; 2
  1; 2 1; 2 1; 2 1; 2 1; 2 1; 2 1; 2 1; 2 1; 2 1; 2 1; 2 1; 2 1; 2 1; 2 1; 2 1; 2 1; 2 1; 2 1; 2
  1; 2 1; 2 1; 2 1; 2 1; 2 1; 2 1; 2 1; 2 1; 2 1; 2 1; 2 1; 2 1; 2 1; 2 1; 2 1; 2 1; 2 1; 2 1; 2
  1; 2 1; 2 1; 2 1; 2 1; 2 8; 1 8; 1 8; 1 8; 1 8; 1 8; 1 8; 1 8; 9 8; 1 8; 1 8; 1 8; 1 8; 1 8; B
  8; 1 8; 1 8; 1 8; 1 8; 1 8; 1 8; 1 8; 9 8; 1 8; 1 8; 1 8; 1 8; 1 8; 1 8; 1 8; 9 8; 1 8; 1 8; 1
  8; 1 8; 1 8; C 8; 2 8; 2 8; 2 8; 9 8; 1 8; 1 8; 1 8; 1 8; 1 8; 1 8; 1 8; 9 4A; 1 4A; 1 56; 1
  56; 1 56; 1 56; 1 64; 1 64; 1 80; 1 80; 1 70; 1 70; 1 7E; 1 7E; 3 8; 1 8; 1 8; 1 8; 1 8; 1 8;
  1 8; 1 8; 9 8; 1 8; 1 8; 1 8; 1 8; 1 8; 1 8; 1 8; 9 8; 1 8; 1 8; 1 8; 1 8; 1 8; 1 8; 1 8; 9 8;
  1 8; 2 9; 10 9; D 8; 1 8; F 8; 1 8; 4 7; E 9; 13F 1C; 2E 10; 1 10; 1 10; 1 10; 1 10; 1 10; 1
  10; 1 10; 1 10; 1 10; 1 10; 1 10; 1 10; 1 10; 1 10; 1 10; 14 1; 333 1A; 1 1A; 1 1A; 1 1A; 1
  1A; 1 1A; 1 1A; 1 1A; 1 1A; 1 1A; 1 1A; 1 1A; 1 1A; 1 1A; 1 1A; 1 1A; 1 1A; 1 1A; 1 1A; 1 1A;
  1 1A; 1 1A; 1 1A; 1 1A; 1 1A; 1 1A; 731 30; 1 30; 1 30; 1 30; 1 30; 1 30; 1 30; 1 30; 1 30; 1
  30; 1 30; 1 30; 1 30; 1 30; 1 30; 1 30; 1 30; 1 30; 1 30; 1 30; 1 30; 1 30; 1 30; 1 30; 1 30;
  1 30; 1 30; 1 30; 1 30; 1 30; 1 30; 1 30; 1 30; 1 30; 1 30; 1 30; 1 30; 1 30; 1 30; 1 30; 1
  30; 1 30; 1 30; 1 30; 1 30; 1 30; 1 30; 1 30; 31 1; 7 1; 2 1; 2 1; 7 1; 3 1; B 1; 2 1; 2 1; 2
  1; 2 1; 2 1; 2 1; 2 1; 2 1; 2 1; 2 1; 2 1; 2 1; 2 1; 2 1; 2 1; 2 1; 2 1; 2 1; 2 1; 2 1; 2 1; 2
  1; 2 1; 2 1; 2 1; 2 1; 2 1; 2 1; 2 1; 2 1; 2 1; 2 1; 2 1; 2 1; 2 1; 2 1; 2 1; 2 1; 2 1; 2 1; 2
  1; 2 1; 2 1; 2 1; 2 1; 2 1; 2 1; 2 1; 2 1; 9 1; 2 1; 5 1; 794E 1; 2 1; 2 1; 2 1; 2 1; 4 1; 2
  1; 2 1; 2 1; 2 1; 2 1; 2 1; 2 1; 2 1; 2 1; 2 1; 2 1; 2 1; 2 1; 2 1; 2 1; 2 1; 14 1; 2 1; 2 1;
  2 1; 2 1; 2 1; 2 1; 2 1; 2 1; 2 1; 2 1; 2 1; 2 1; 2 1; 88 1; 2 1; 2 1; 2 1; 2 1; 2 1; 2 1; 4
  1; 2 1; 2 1; 2 1; 2 1; 2 1; 2 1; 2 1; 2 1; 2 1; 2 1; 2 1; 2 1; 2 1; 2 1; 2 1; 2 1; 2 1; 2 1; 2
  1; 2 1; 2 1; 2 1; 2 1; 2 1; 2 1; 2 1; 2 1; 2 1; 2 1; 2 1; B 1; 2 1; 3 1; 2 1; 2 1; 2 1; 2 1; 5
  1; 5 1; 2 1; 2 30; 2 1; 2 1; 2 1; 2 1; 2 1; 2 1; 2 1; 2 1; 2 1; 2 1; B 3A0; 1 1; 2 1; 2 1; 2
  1; 2 1; 2 1; 2 1; 2 1; 5 1; 2 1; 3 1; 4 1; 6 1; 2 1; 2 1; 1B 1; 5310 1; 41C 20; 1 20; 1 20; 1
  20; 1 20; 1 20; 1 20; 1 20; 1 20; 1 20; 1 20; 1 20; 1 20; 1 20; 1 20; 1 20; 1 20; 1 20; 1 20;
  1 20; 1 20; 1 20; 1 20; 1 20; 1 20; 1 20; 4C6 28; 1 28; 1 28; 1 28; 1 28; 1 28; 1 28; 1 28; 1
  28; 1 28; 1 28; 1 28; 1 28; 1 28; 1 28; 1 28; 1 28; 1 28; 1 28; 1 28; 1 28; 1 28; 1 28; 1 28;
  1 28; 1 28; 1 28; 1 28; 1 28; 1 28; 1 28; 1 28; 1 28; 1 28; 1 28; 1 28; 1 28; 1 28; 1 28; 1
  28; 89 28; 1 28; 1 28; 1 28; 1 28; 1 28; 1 28; 1 28; 1 28; 1 28; 1 28; 1 28; 1 28; 1 28; 1 28;
  1 28; 1 28; 1 28; 1 28; 1 28; 1 28; 1 28; 1 28; 1 28; 1 28; 1 28; 1 28; 1 28; 1 28; 1 28; 1
  28; 1 28; 1 28; 1 28; 1 28; 1 28; 9D 27; 1 27; 1 27; 1 27; 1 27; 1 27; 1 27; 1 27; 1 27; 1 27;
  1 27; 2 27; 1 27; 1 27; 1 27; 1 27; 1 27; 1 27; 1 27; 1 27; 1 27; 1 27; 1 27; 1 27; 1 27; 1
  27; 2 27; 1 27; 1 27; 1 27; 1 27; 1 27; 1 27; 2 27; 1 27; 6EB 40; 1 40; 1 40; 1 40; 1 40; 1
  40; 1 40; 1 40; 1 40; 1 40; 1 40; 1 40; 1 40; 1 40; 1 40; 1 40; 1 40; 1 40; 1 40; 1 40; 1 40;
  1 40; 1 40; 1 40; 1 40; 1 40; 1 40; 1 40; 1 40; 1 40; 1 40; 1 40; 1 40; 1 40; 1 40; 1 40; 1
  40; 1 40; 1 40; 1 40; 1 40; 1 40; 1 40; 1 40; 1 40; 1 40; 1 40; 1 40; 1 40; 1 40; 1 40; 9E 20;
  1 20; 1 20; 1 20; 1 20; 1 20; 1 20; 1 20; 1 20; 1 20; 1 20; 1 20; 1 20; 1 20; 1 20; 1 20; 1
  20; 1 20; 1 20; 1 20; 1 20; 1 20; B3B 20; 1 20; 1 20; 1 20; 1 20; 1 20; 1 20; 1 20; 1 20; 1
  20; 1 20; 1 20; 1 20; 1 20; 1 20; 1 20; 1 20; 1 20; 1 20; 1 20; 1 20; 1 20; 1 20; 1 20; 1 20;
  1 20; 1 20; 1 20; 1 20; 1 20; 1 20; 1 20; 5581 20; 1 20; 1 20; 1 20; 1 20; 1 20; 1 20; 1 20; 1
  20; 1 20; 1 20; 1 20; 1 20; 1 20; 1 20; 1 20; 1 20; 1 20; 1 20; 1 20; 1 20; 1 20; 1 20; 1 20;
  1 20; 1 20; 1 20; 1 20; 1 20; 1 20; 1 20; 1 20; 7AA1 22; 1 22; 1 22; 1 22; 1 22; 1 22; 1 22; 1
  22; 1 22; 1 22; 1 22; 1 22; 1 22; 1 22; 1 22; 1 22; 1 22; 1 22; 1 22; 1 22; 1 22; 1 22; 1 22;
  1 22; 1 22; 1 22; 1 22; 1 22; 1 22; 1 22; 1 22; 1 22; 1 22; 1 22"

/-- Reads classes written as distances. -/
def readOrbits : Nat → List String → List (List Nat)
  | _, [] => []
  | least, written :: rest =>
    match hexNumbers written.toList with
    | [] => readOrbits least rest
    | first :: steps =>
      ((least + first) :: sums (least + first) steps) :: readOrbits (least + first) rest
where
  /-- Running sums from `n`. -/
  sums (n : Nat) : List Nat → List Nat
    | [] => []
    | step :: steps => (n + step) :: sums (n + step) steps

/-- The classes of characters that are equal up to case, singletons left out. -/
def orbits : List (List Nat) :=
  readOrbits 0 (orbitText.splitOn ";")

end RouteTable.Regex.Unicode
