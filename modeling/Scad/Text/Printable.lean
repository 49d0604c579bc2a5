import Scad.Text.CodePoint

/-!
Which characters have a visible form. Control and format characters, separators
other than the space, surrogates, private use and unassigned code points have
none; they are listed as runs of code points.
-/

namespace Scad
namespace Printable

def hidden : List Nat := lengths 0 "
_QP:/lF0425///B/eK/T0^201/^76I24?D/a6/^00^;0_7<^;0^10=/J0//93M7^J/`E/6000D/5//120700026/20/30G01/420
0D/5/0/0/00//320011/52//5?81/7/1/D/5/0/308/1/10/=20:55/1/6000D/5/0/30700015120/30@80/411/210///01011
1:2311/20/4/<C3;/1/E/>07/1/250/10/02085D/1/E/8/307/1/25040/208/0;;/1/^3/1/42>0H/1/@1F/7//051/24///64
801:^:2KS0///3/F///E03///40802N^H/R2U/R/=/;Sa<//3/0e7/205///20W/20O/205///20=/^9/20^C0N1H4^V040jX/J
1^Y5D7F7B:;/1/0:_008484</94^Y5Y3^F8M/:2:2/1X039Z2H491^>0^A/K09484<0M^1^M1^//_F6^<1=1^<5Y096Y3hJ040T0
406///////M0^5/=/<04/A01/7?F6^/?00I/;1O=O=`02kAG9C^f@0N/dI3[//3/0^850<F75/5/5/5/5/5/5/5/_PPH/^Y:aLH:
3^?/^V0_93Y/_0/^T:^//rcS1^77dHBa.6aA30///3F^;184^86^F6:4_F9L1^N/92O/^77<080_9FJ84040475/5/^<2_P084e_
V:E2^1c`PdZ0_<T5:33H/3///0/0/_O>fM0^65/NX4^3/A/223/_Y2a41404040115/5;00:/H/A/0/=0<P_M312[1^X/;
1/^/^._TK1^1=J2R7L3Y3L/S2<X`B084R2R2V6^49:/=/5/0/9/=/5/0^CcQ7D86F4/X/7^E40//Z/01/0E/^H67^0A/03O1I
3/^@^82B0^2/036/1/K0128575^@NU2:7^61K0I3H52:5^P^I^7^3;^35^.68c@M/X/100^NV6XDHTJBE7^N2R7^>/3;G584^5/@
6U7_2/B9@/Z^A5///2/=/94^;3842/6000D/5/0/3/800010/4/350513`/_./3L^H68`J^60TP^E984;A^:48^6I0=2Ea/^<_6^
S:60/06/0/L/00:78^F60^.09I^H6^S;^IbO7/[/<8K1N0D/<^I5/0/Z1//0/76844/0/S/0/458cPG`[/=^2;q1_8_A/39a:^
x<_5;t;_y/iMcdMi?5M/82^Q/84L048^F88/5/C3AkZ^[_7^K2^95?^@390<aj@6wXX7ck92/5/0/c=[1?26eJ^q6_=3;175802`
i:^.0E7_F^<b>8U0^J6_BC^F`>B:^W7G_Y^U/^G/00/0002/:///5/^A/206/5/J/2/3//15/d@0c>0l:=3/=u.MaW5/?05/0/3a
K[1<0820cZM?^:3/x45/2/0/=/a;0>W^L2820n1^D^L^=a82/I/0//0//8/2////4/2//////1/0//0//////////0//02/5/2/
2///8/?31/3/?^40bVZ2_6:=0=/=/S8`R^8K;Z2750<4`>r@3>1;1_F:^Y5:2/=:2^8684V6L00^Nd@:<0313157K1934884665
7`7/^7S8s@^]yNN`];5aT0ab:<biC_dChR^_P`n?nezUb8as`<".toList

end Printable

def isPrintable (c : Char) : Bool :=
  let n := c.toNat
  if n < 127 then 32 ≤ n
  else if n < 161 then false
  else !isInRun n Printable.hidden

end Scad
