/-!
The third quarter of the packed table of names.
-/

namespace Scad
namespace CharName

def packedThird : String := "
y.>KrEDD0vcZ]JA2Rvu>4X9Yj?dC5x#7yXnF:t3N$=j+=6c/leQ@/aJe).q#<$8r31O:;mh~;WPlS[~UUa&X9lP~7',9%PznJ0(j
GmI/K7$0uOWwWe^bMSCG.W~q,L&'C%Gus>XS):F1*+i|uXeaxE[H<h#hHb`89GYO)#h`Jx_bBDO9GU~pcodN+|/wR#sbr`HaW>n
O<iw*Q:%?r'*RN'<5|Uj$OP8H&TeIO=gfh%J<ZUO.>JEUMJGWK(<z_Dt8j**0!As/[;4Mw>.4Z+a~0P6O||f[C#C':+FTNM2ieh
P;B]+XDga?FL$OKp?7$Lp(OC@I=p/5,EX&0T`qTAN83P@Iel1y<PFxGDHV$+)bC]:@xGN>(,5H~g@+lummK!E*'B]Ip'*Lhv4.@O
xR~%@W!/WR7]_8=3ha469#?&OQQFFanN+3f>PF[ykgg;EzDILDS<7O![YB$thT(V|fI!wOZ>j*hzT#V)sD'ntVbla6fIx_7!
w>)|~fCXgwMf2b>Y_M#o||C7*k~OASmr67q!y08&a]F)54w7,1wmv!tSucuzpJ[jU3<8s=3i)(kT6[L+Y|Br]cZ5@t[U&t<Y?@[
R:6R56F0UY&)qU/G1Mxn97:rEfM(uJ0'EZn<5X^3Gmkp.,$4['?6.mI!3[50O;s:~;ounhAFHz*e4OF+'us<88reQ1h*aea;p4S(
RCV`>+=?LdZ<k~wC&]s]kIC!Yn`pDdh~nrfS5XCXmDaN5a^rI!.l#!^0R7/SZyPAL';xtk1x@ihLAowI2dp5qQI<Np*f64>+7D
6;(OY^L0q)L?ydLWt]o/63^zzOUD`N9'r0lK$b8:TD%CC0JdNbenZIorw.mG:Bv)&:iav@HOY%:Yxkwhv^<ndQ3OOV+XlP]G?IUW
Uc]T3:rxSLsmJ:#QNV15jsu]hi]%Iv^mCBs&??Ot_T~W)2nh^J0e=gqn.qkum=i;vL^Ukw%NcA%%c0#JwYBy?3GL1@.M4DAf;;JH
k`QQmD+0sgAd0NT$+zH0TyDj3`6<$d#E5<@&3+D/|o!Aw3O(lDi2BK)B;avIT^euXKJRej1|g1'F`DJ<f=!aJADBc)7A@CJPw*6t
h9Ie?^)^8[#JJ^JJp0A)+vD~WWlP2~R|mSO&+MJm`xdj'AfVa^ZjGO)LX*Vq7l;o%|Ot:gutWj(,cN3Pgu[m>9hzd'e;!MgUU![j
Ff|TG9+r3qv>/$lneeA|kL&:b*qZ/cdo*~$5l%,hx^4qB~]4]t6!#?+a?DCn&LAC+O4giJ7u:qKA'E7vRF@XE0xm|DEQ^;#T>X|w
Q|'Ua|:RloB#p4CeZfcuc42|z~Xyz0/n25'5RyE<i:BbCcye7GsN:hYe;yCQ20x*PBu)e4;bv33@SuX=PG/gW+*[(|tvG39DPm+=
028t0L`cz;g(R%yi/#vnA>j$SLeWjsdP/^B&<KQ]nwlbtG%i<<%(+|p=.q%Jut;eU$$>%(Ay#Y8Lv<k!pf@637;NQ_wW@dxdE[J)
q|RKMhA_s;hUXssuu`xx1c$U57J0&~<rWh2MY5`]EC.;:EpseUQU:kr`[>L+U#+O6v+3`Jgm8Vt~r^bOh[c6^R9f/~Jj2!>I~PC,
gAm~A/mGPp~39,H8c%_!@H7T+VT1w)81yu/t?<)3owO(VPp[JnjJnkfLtc_AnJ]lAyp!l5O_M39&t5uiS_([=3a<9:w^@.nS,>$
5!R+uO_H6+z`+~^zW]PS_p]WqO|^tb;uKF2/W:*iavDQF3^fs;g5&xd<%M2ocmFc;wNG:|2/<c,=Qe]*V<]~P4Q+j#&zJ:]PB6FL
xuDC6D,k>aKlL_264P'PeF+Ii_)b,kUNw/KWFZ&kN<g~+8wBO?^iAucM'I^@Q;Tpbeuf73hA?AjA_q^p90qT#|>;TRN?Wf0>g8
w@*.MYeL2Z%Svh5fP_S[J/NQ'u3S9&$O=J[#28yZLkknR|LsH:6WVksxgefUFSrAGrw8a/(AgOGNmJbXInm>zORuoMy^+e>Ld:]
g<qN~%SQRZzfn$lXL^!7nYL)X.y1R4^f1XQ&Q8#G&E![3QYv:]BcLxyRsm<b=85(0Jj2rGcc*j<+z5bFXjNZ~6NPk9$*'M4I/$S
S]^|#8MXjtPV+&oQ'*Z2wS[>A`?$[`C*V|9Hy+t!nlN!X`miYQi*oE#+Hw@4fCx/@P'`U9~Cz)IX7:.Er~~VT.'ZiG9QwqU3.jMA
Zf&rLzdvDJnsNPoArn=X6'dDVyAv=`1Kqd%*TR|~x<rl]l$(woOmDI13f~.*F>%/cyHsn%ayjj2eKJ4z?^fJ)V;uFJJQ4tJ8a'r
H^t;&WprYRGgTm.dKE;!chC3/(qM+J*6b0[<KZaWp='7$lrtk71LKJ3EX#zS8T;yob63#M)oCWIdf:fLh(Y)3Letnb733$''a6u
G!srX@8)63xM5(L,=nyLVz'H#^Wf9S0MTmCAeY0cC!/|.u.rqra.MBhy5j8wsL)h)9$cO257x>QBd[3BYeE.0lA,^M;PL@_spZ*,
OqX5o*be0(;U8O<JvnPG`/5wt&?MTM~E$)<s`iP70pEIb01~aE;Y)qKXd9r;*$37,t<N|pCtsyt,n*67V<iGf~7Kz8D3mi,L/svZ
ZmV$o$QSG)gb7qgIQOjp#ph;V'V5?+P[t^O3uPz$nl3|@O3^EaRyj7qhnV<Pp:q6$V,hZ*s&;st4rT_$8>StYH.3E#[E]#[SZ&R?
1isIv0Xxsuq9_j[t.<QI1F.qzf#z:eS&jc+`?If0CyljWV*?]7V,'inK;!#dx3z,yliWWjC]#ID'XSStG50Z^S;.dp272#(oGD_L
C`!j?H&a30/lXJv<.D&3IaxW9|XzaJ..Pio/XOUy(NlY,xV/~*kxlg|Gv6*5h$I`oL@fewf`rbKk)!0z_,v`r=)[wmE,sFLVpbLe
7bd%zwKZVNQ<p9i]UVML9l%:YwKPxb1*JQAVu'8saR,npbq5xK=4&kp^g][~rJann;@)S:gQT$FAw),[8JutcgunoNfj+DVNz_>e
0~gQIY(h.8gg2IMr6:laHa^;H8P=%wO@0j3LC$C@s0mDeb([k]P_2fs(wh1.Dp;~Uh^E[,@bGAO:[I$OL*_1?kKB1~7P')TlWR#g
DE~s_FGMK$lv+C+8KJ*QwPn.,Z^],Jtt(AGUbe5SXaL5J]4N<oSu_;^HYgkzi~u?>5KABp/Wg;T!M91[Zw?SA_2`rehx3D!L~xc,
0Sk|hFMv|P+CO5YF(+K;HzW$jw#_4?J[k<)h$7t_vAm91_za`(x?l3!&B'+Uv+:j0RW<0#Qs%:l7nG,&RMZw=L9;LU];j:LAA@s[
KgZPP_J,:16@GKl;58D!e$$j'fc40cozirub9~Q11kU8Ra%j)j&~m0K%f[R0<0!im5E~*<2<D02'gyICUGjJ=eUZUyQc9:0ElIo
W&LDvf$?nNGu5K1`_/(qK@1v|!RMkTvW*+pOs`W)f36bW0GP27~Xl!^=+e,=ucyEzCG824<zATrgb,bVRk:E4kLduo6=.k>1O[7
N,D?v~HWtH<0p.on9d3KZ+w</4)Z75F#W.FBK4(.AGeTW0mnCY0xgfv=Ijh.R;Wus3Z(PH0<#g6FAtv@0JC#W.Im^e0_UrdH8EU&
Y5DBF3>$RxLlc'gp!jrR20Q<n3<k)*U~y+)mJ($F;u;(ANAA')p0]n4xaR~_y$4Y#BJ2@QtUaXm?ld>Uk|''DWMU,8^1SUrSIFr!
2IAP[!r%Q(hx<;TKxYyX(z!]/t1Z6q5t*yI;b6RclT6)6]!v=>tWJh8ZNDbGT1k%N7TKOy#Vw&Q/C,_>YidTHoL'+:_ETs0x3IR
y):sw:u^ZuE,3XeR^w;;?Gcz'f*[higA/#F2:*,cajf<hQDdwt:+mKV/#v?cU__so7UNUj2GqlbpUhPq`:OO:?JnSDM~kt21~!sF
5pD','*z9+rQfNfg5|YioVEt#Y*SYNG7('@a2WmSVAhcKY|xB4GCA_r.|Z02]JB:+4i_EOg=45Q$nI=K9p@Gk22y=mL;,fY7u~d
D.CBN+44<G]r,]*ts2]v~N(I&@b0ob+%+|x5LkKI`Q5#X|'PK29dK>lADP!cMp4cj;czcrswM[@x#>QT/yi`NtfuBcd^ym.6Gv,2
rNn&.o*=|C%3<oRJZxp[)JPQNRkf[c#!PP>35$fk0)cqN?:!|qiRP*I]ng4Jk_hAx.DeBIUg^lJQP[bf|~`9VA!!@s#FIh4L@Ya3
g8E%|7~n&bni]%3NM(K0H5h=C.Ck!SCO'1M&d^`w>:g!R<B&4%LeTT]jPnGpK9koE4&$.2TQr|!jNRZ4/6$74b;9J|+cgtUOO&
Q<:!%UL'._.2#kTXtfTi)B]Y~4adz.7S]>=>B4s;nepQSfi,U0n3$0^7XD4GV6L@=@[gj/!sBFp.9pn4;LP>q+^|WPkS$&W7.:uX
2Q=,TPK]@dv$A^R51ztIV=OSu5:H!`ps9Org$!:gHtVMYJQX/d5io|K9?5/SbXt%kWCDp(?tc|L2tR!a/WySNPE.d|M,K0`U$j(E
MkC(s2fx^o+*yv~,@H2Ni]rh;lExj&K<fs6GM.6,X!z=Y=G.NT$ni5jGY3Uv4xw>NP^wG=5'4#+<W.m6LD69^7oj]Mr_:|yIf@bA
Ghh7ZBQ3[P)O7%2I3A_[28XeL^4ow,k)Jdk]u=NAPk;9hN~yBBlf>`dK2$O]|<E66#?yR[ijt=kW.%:ER@#,,IMZG!Qy3Fxb5qjo
pvPkMX^:^!2f=!U*qC7_tSx>byeylu+h6a]tC$Fa]z|eq3lvxN!e(3!MlRXAXC'3@5:%Cq69u^9en#!&na~+$JRw<Pb75M;5zzE
q%S]:<EJPsRvE^6PQi3$6qCF.C32K2weM:Xe7#U#(4W@.ZRQw[`#qcdK7_<6N=<PeCAWJ=q0_N=S`H[,yRU4vVs,!4qZO7X7&4~8
MU(6CYzjm&|yVK3K=fEpqaRVA?$KFI<jF;J%hBnFlqFr:erUjwM#+TZ+H)8lBE++KqG*H_4nm,;3bylAhHTC=`n.4Nh|gi60o`m6
pVNDq<AY+(UGv&qI7ilyiMkR|4NX$4YPULjo%gTwnK3I73u$EX$2b@TqR&5(cpP/.K/>bAzQ0q`|7@L,#ymJ`nwr4E<+rl'DD^=
4=|Il8cFc*mt&T/HBIqU~A|HpMCtkhpYvIa*Oi6Ddr_`v0cPldc'VJrJjWPg(1Ezv4^fi~vG#,BH#h#Ekwvc)|Uqp28)VAnhHZI4
6xtANHDTD?NWaL*A[,ZvD.H8B:kJmZp+Xf)CT<&p4!e)0F#?L5:6QFbIV%DZ!<vc83j_.T/C_Lez(X6ORAB5F[vy@Uv16$|g99&F
g^;Yo@j@A7nC_'K7cs7zh(kE#l9IZ!,`iA`%1T2<MB&7Sc/GSL&~VQ>Bz0C*Q9@Yp5__C=YPVm4t5?XX153fM7fj:GA`+z*J2Prs
o>$|!,Gw@1iF'U<;p!%vofI&PNE/_ple:gHxh.T7C~;'wNPC1U]YJbTuQ@0hjwNLi+[,Nr|T~`~dH?/~I|yp!x]?O*(+5x8`te%
f(7~oJ<?)jHnn/FULclurG@Jf+:JAcf^8DosBm>$%s%kKs86c[JxN<B*;kw$NmzYU=NXN%$Y,YRM/j@/#zhq;Gy(!B7tip'#^g21
c`rDrDZ#]vc@_;a9S)dx|).pf_RE(A;p`y7m@Mj(xgY8DPKSV5RF`6gI@;1IU]N1%$/[2XFm);/dVc3yy0/e?HP7+J3O+B8g^rb
d/A;f.ApCk3MPUc,Wp;G5zKe/~/sXNtt5XE1fmJhAKoxGDIu3_x7PFd?P9WY?,.;YPDIxwm*^USn74tewv7k~Md5QA>j%gGo/_4
N)f&#Cb'yv?E;r[OE~ZbXy=G+D*~.kvMV|YEDq6CSkRc]++<KgubDbR(i/|$wQTkx1!0y,~/~+e9a~T[Rr7=i?YUG?CJ]WKm6zS'
UXvKidAlARaqsJ5;yvE`q:AU0u3TIOtzIbUCgW7cY&gKEGdYm$H|>v]z_wmF]ST8@IUZN)L?G7h~CuCm<qrZX7D=LH:0a[nM'4eG
EzN8uj/^ASVz;MuS&_<=b?6]Hv[4ypjOCtcaC*Z;peBi_D~ga'fzT3!2jxW4K=jS/zYagF;*dC[b`?w5g1R_)C,M?&J:bqN.!?
B+)fp#Q2S$IA6c^3w[rtFrA=wgdq7+Ux)nEp&)6=eTA0`<Rw>%c5bBM1*W#NWR<;0(Z*Qq?cfe6e)$FaxF*Ikh?=r_HJTCpH%h
N~$8Tg:=K'aO6?CCrlkO:z_!4I?llJTBg4$qj(L!._qGHG#.E`O(jHYYw`z^%)X!gGU=^/TyF_396@j1IFXmRfq[7wlXHj%C+0C
T=upJcWB<xK<LCK|u$B3.prGy`j1|.cnY]&SzK7B@TLOl#F(Wb^E+Kk]yZ%Xomqgo_&`axV@GPP47cIiw<k?Cv].~<QIk*M&Fks9
p)m/lhY,MVJis:(7Vka3_;BwJAr`JWQ!u&tbWCqlsx/+vSe`Lx.0)`X7|HkfmOCdhsusFn)V/[#Qc,+&3ASIv)r?cSK^&lm;e,#
U`A]tFBwQX&L@B4%J.47XcR[&1*!|S+MgBI^jKlpa0K@IM6[S'p)sxh6$b80e@e~RB]Gld^Kke%8j$Tv?p>e2n0aa<SA/+.<$;RJ
JW_Dd3MBetudF|[9i:$KV=F`c^,zxC!km[K'gws&!lsfl]A|l3:qj2HnFejmz^U%ldZ*u<jGS'ivH1DmG,n@9#u.#vc:&Jv4*?@(
ES~z?Z~.8NQ*E&_=25vIbTr29~]nROJ#341K&*@dAGNsGgqzM!;Y.wjULeq0l>se<*3BGI]'^z#X~q@48TzEE(k8q5!?x]jAP|A
K]2r'KA'5g!z4TE8fay.Lr<.jNG#Oy!hBC3&m_w/=(`u`t%^D|pTM~yqdr7Un9#BB;JemMa_;)t*7$u'(>.6F/)TM=(LHgMDvp
I:*'L87sKge[AYMj^cS*MLN@)]NCztH3@bfg+pmD5AAE]S>5^Xk<iN+d6u%Z:.IGOBTmyLdAZ'52TXB2!]'4/n[kIEQ[R/FRR?d#
OSK?E1IyXGDGXxFWv(Pzjs%_H1)vx9j,,>~;./cFe^`exKpz,_cy/GOFHfF)LBmC8egd)#Ztw|H]cig.b3g@cQYB*6bIcE|1H>^q
6~NHy7*Tp;U#tdg,JtB_Z4>VcWv'$nk#OHd!LVQ~T`IUrcLlmcAHA2q^'6HXX$@&`9pL[3+0>K[?S0xR=P2nFLpLl(uTzqiv[zPF
cxYcD/tW;T#b[R8]I~wCs<OVrL_wm$P39'4qSa!`b|v3pfD:2G5Fujr13+2R&ym*uYBei|wz+HoACx0=O:1&'g&|fe7vBd/Z'CW
3:B_OOa*n4$HgFW#fid15W)@Ru!gBz;cdSr|0&Cs3n=vq)1J7we`hkDxj1``0WKR~'1C,.zO^uGlc.c`qoHPtZ]KdJafQqRyy)oI
h4U~S+seGn8(S2v:9CHj[V61zi5Q!r[H$9hY!Wc#&+m`v?0eMpC^Gm#[jd0rID7W*!SXJKk9c60#M01fL$F4`#mOLI:i@UxG)O`&
Q:$+rgD.^$?m/zW.^@#*TzqO[db]sAj=rBe_HE|V]:cR;[yYb6yt(63MY?qHnxPW&8%QR2p[88at;@0&3$@I/8L0*$!dYR@OCM`'
Q@4j!V**D_S+[l/qYZ]1^!207wDl0378,3xW*L~cDY0t`@IyWsnR_?cY+!~p.j^#y@$8$1v?2lADBBPOADHor56C~DUxKVA5fO
a:_X'9]An0:?x;=]5y[tCWq~8WUcV28Z&yz[z[<C~*^R<)Xi@=Jn7~_U0/s*ZstP*[zc05|FRXhMtHeDu#zT/ys:#z/'4DRTYoU
d)eW(GUPb$D7(WFLC:YVFVdKGCF'HAcPj:s(zq~>?3]In8>RGZ^DxLioNlM)h]S%+nw>&|UrCWs_`[USUlo~xaJRGY|'!=vA'~g
M+&&|sSAwusW&<LtJEJY=Az,y`utMnemtUEtM&JZ2>@r2=^>GI[?cNWJj[FF5Wv;t!Q!+|pkctvEvyJGTw=[G>M'vOUy1$hH!Dd?
P/=b~5PPBxUw|YVRzce)IkW<B9W<c4eb^8`_CBH1P:FB]BgK^>ODN9xow<I@^?6CA&tTUdKPAWgEJLi`J=F+dug7=uS!^6wKpv+c
p=ccByYKCP!p#Ws9[$5E<G=vdk,iE=+(Xt(?5,^Hyn+Lz[aN=Stv(?Eupid&?`+Ldza8r<=re15Yf&U3+VgTFt8=yyI5&`p`,UA9
IA>|(EH$%$?7#Q&ndY`tayX0HraiKpszpPjUg)X<|OF<OvKaE*O]$]bf)|QK5wEbh$e_qZ,5Jhkg6Rc!DPV]/%?`3$7R8CWNvD!
l,I&O>e%e>N^.:L17WZ`r611;$h#`qb%Fo4Tc3Ob+t&!hg`0!KHt$Jx3:aK$hZ_MarYh^wuR]:vlp'[$D%FF)_$_ocqppbonTtux
Ly/lYJR147`_O4gu9^Q~XYJv6Cb:bCe+`85EU=kYp|6&1>qS;(DJmfvo3nyh*@[LmXi9JEne#D/waI;IL1]tpMO`2LJ)Wk(OQB;1
2S@VpKm73;mQ==EtIoez$LqBAD]za#vtl~4+n,uR5)GRc0z1kD*z~@1.1j$kW%.F(|!u$BV5Ec8?PyHJPn<Qk`q,<Rr:D@+L;zS
s~j$P..Q66H:I[lkU2*Un^9etQG2AWxa!i)5~&CXjqjkh'1YZ0S`3n`4Ux/2hnl,0@eADOn8eAuZiF!WUp,z,K%ga%XrbvGA/O_
e#1X@@rSR[d31=`2t+k0eVq,X.&2LCQ`v!J*`hRJL~DAk'hN9u~Jbk(pU4PXXw#G>zQf1a&RP[*fI].N5J)!imseUcrQC[G)&D
4[|2:WC;o&Y.>hNpN.nN*df.d$XZTo9)#48kL$3GuwTC:ff,8Hv3'3r.?+%>L`J>lWO_pimI$*CXTYbRo_c'N;[A@.Cm|gwNax)#
86%nIUDgV0N[.S+dDT!~[]G;k35qJNzSuNpd1(hjqY`MDh$fZ#hzkkXrf!d=.3kwuI/&2c@t2Q0v'E)GRKrZVR4~@F5?swRv>Eb[
B$GUs+N3PhFGlFgBRzb_3%ofz!||JV;1sVZU/vze.Ni]*j==WpxX!'irf;RD7It)2bCRuQ3fma0)Ab/8[F_Zwo^|C)IzvFV?`U1
L#DU+)m(02~uSh[O)jDkqaLt0[Iv>UJ/J^$*>e8*[DJoXQJTa5>r'fqL1zij&bKER1g^!]LFhqT['vPp/ZSmTTR(:4As.Vhh3^]l
py2i1`2xYQA~t)+WeC!/I/iAS2268A>bF^maM9#sm,AK3Y|p,YmsFL<>j8#S&DKB.DW1wF8PMdJb_0C&Wx9zR>T75~!duXJzA7+_
wWZXLyhKd1Da&(UFbD4,931'yS'E?CI1=f!c=]$z9;dw1z=[f.:Wx$k*V`Akdr!i+BbtgXVf6H!s@&WwA1sQ4i!lAG2cG>@Mcsas
7?(95@t]k4~L1$yV)i_kcx]d`'&X]DSo0zDsogcsiFUgXoaRxV+Q47h2R[_Hv?eN>d$RUpk@&7wum%S9'6`k2=_#e)5)X73JKd?T
g>MAe&~Zb]Z'bV2UnU:GHHpY^WscWZ:Hs5w*7QW9wA3UH/!dCQ6xO$LfhBzJ]F*dWUn'8|uW!/cC(!21<jep!/14Tg!=/QX@N``5
buMwdBfod$[2l>Lw[CW^M5*?sl~t4LnuKZwxzS:p/er&5GU:7]>/c4pQ,JrYGDOqB~b3EgeL|Q02|@T5iMrCfh%6FNs(QRmNFy
0!|Wwf9C+w]OhaQ%+0_NZH6K':b&.5^/Ki~>1[>U6q~bwLLKi:D3(P8gs7`Z9Z:8el41@O=Pl9c~?!SNxY,4,yTYk(bWLNsixXTk
Jh~:eA1/]<M?k[wHN6HF)oPcT7zUW>Wb4eV|8BWsDv>2OJh;#?Y9w2i<@Ke;V|slp~u,IK8I[dx0jZmIoLAk./>wb5jyg@kd~0n1
W1kpD`vu&cc~]C3e%ob&V]~9Hu.J5wwN'B<:_xj$5g?r<pTh^6;he*q$O%)ZsvX`DfVGleG+]!1E&Ae]u_u*f?F'`u8iKtu|:CO`
r#jAF1|j/%RQvx&BlTAqo9Jep/U3$oH|3W!r_j60<%KGdfxW1((=KBYyy#~z(EafmIOK/bY.7R/lx%JlB]Oeu:;a%(:]gsI&Gn2y
tBnwHi8GTOz=G^UOd<%%V0CB4>E@:bEefDIhcwJWafsTWyO&0UH]hS#46i_dzq1P:k3!zikIES#gSFFq?4Kg,q(JmXVohXeSW<N
y$s@3&W0ImwyHoyAX5aFrbxQB;5](RzDk*V+A!/,MV9gN<fZPPR.r4?[ra/()W0Ji+(V[MfRtUTX.$aqDo=U.z_`5(S6Tomr&0AC
yEhHt?TUp9e%<(krq4S#w+xB@mHfGVK.y8mZ_3j#Im8R(omV;eGd5*W5qBKI*zS+xg:Oy?n7Hcn@F<!=6KC3Vaj4[3].r[RTdqt4
cj|XL%b;.6IHiCzw$pk0<l2JGB815U4U_V!ip]AQBrr]b9]@9veq?>YdJzim'a29#ptaS#ox0NqP>mvtbTvmuvglE_Iu>YiNUG&
y$E8/rg&II.:L7',y5G`f$MA]@bRFWPZy?]GA6S_neXBP(&?@;j1tMk!&(g#HIA_fSG%?BrjXwg]]ndmGv)5QPlom%we[lIB^NXM
mAWu<cT:Nl*|^w;E8!d>Few/c,e~2;Y[p@:C<!]Qqg:_=|DDd<G5.0^,m55[G,vhkCLDzlw>rlaZ#SVK`UuaOza!/3aFpC*/7g0t
Wo&g^jqW$#lb2jXVJVEu)QNO.KP>3JBk/$y_)K:6`@vc6JQ(_.qIdQLLR<9@ZlciNhov|'Clgb!^?g&TckN!MGXuMC9ZRRTX]Efv
WoNKl)Q$WE)29L.X*0&b7FWW,g?WxX;v=<dF#9Rfbm~Kld]_WJ0(t@?Ds?p|5Qc]bghOzBN6VECw)nE(['T2YJgbgHfYSIjpC2W
E+VWkL+S;.2jVl9?=?pbf+CAH|?q1CrPYBD$|P?DPZOX5hiMGdU9C?p'C*FgHEu<UcEYt]A%:[Sz`.T)v3wKR<hCS~Nf'U3NHAH5
WB'=8t|]j6vL)^Ey%+vHm=^,xaZRoC.9&.PXhg)?3V+%uF2OD11gyU=]SX!6~X@MSO]A/I5:.3@zxv~piq#NU;3yW)ZC5~R'D?xe
YFG_BEtU$4FB;w2xDgUhIX1*<ya!=#*>?dQc^eM!4c<5%</iJFq7yceIuE;$1vyb/$ez8C~nlSHA/fXOjhj*[n(#c!ssJ;&PkN,6
3^||+b*x|Vr!K;=$J]6GOJl5srTc>Q.;yHfKMG<TOX?Ur@0@gljDw,f1?6Fw]7!B0QF18f_A'q`;Ucyt]^l;k'/YqRa~$wCATshw
pUMDa8ITE?_Yue<*DgfwUldh]ydcP2B(#b53k*Uh[.V=<`Yxv;kr6U`ip%_ncK(o((CSW)lENm,bNp5%rM%VMga>iNTzK4Ejon#q
S9Ce!^'%Abusd$TEtkI/Ilwf#o?`,fd0h]yZK,Z%]v;vBQXQn[%TKpM!pYO4A)4kw,pe`*4]>l`#4fzf)Fxh(gDQ~$9|<wAj/9wq
zN8K<5tdV1N?BY<$)X1ib)aj>A~w@b6>)'~DFR!3v<?<l$jDrD?F^o8xGP5&W.>#N.So<iub.TJHL9z/yr|S*lnsZW_D4z[NSn|
0;JWb7T*s&+q1jlDK/w=(*juqHYo(T6QR7Cos;]lO:#5%C^lyC!:gAOR@XOVyH[1TD2oLmRTat?>sBD[j<9>;Tri9O1uQ.iEyAYX
J>A,GB]m0g~^n'iI7,zwr`3.l_^7OQoz75))~<d<(=]w,V8c5|h^dvbQXJt+;(:!keb]tr$z9e+zEB#%PK|j;Q@'eC=W8OAGW/pR
HX0aGTT6)n[p=p6,8?:c_[/]g&Hsvy(1LLLVP&D8#$_'2/m#bF6Y0/hnl)N,?<q`rY@oLreiKt|^VAvCX/<1lZ[tLfpP8$E~C'jN
drn'Tq$~ki]a1ON|$T65<!K7.XnCO3R';W^YSvPA*<&!o;y`[kFlZ]45EDmN%Ocx~%U%5>nB,c+Di>O,GJKW;ZBO,NN_bO6+_']7
0X&Xve<U#$m#AE[(ld(_2>zIa::>p[CPGoNQ0L'a|eG]QMNgc@R#6kl,~Vv%z.T9J0vDI)oK*<m';pnf%2.vc58Q*HclKa5NXEtf
LmL,@~U6_Hx>$*t*T3BXvEVNg(&Y1TB73gy8^:%_85WwxkhJ~MM?z7kYbcb7,7FZHhz9`yFs%F~G^0VsE773'Iujj#o`46`?sX>I
sgP_(Rch`c>^vl|jYOmtkN,v&w4Jiip%7nT9`oir92BAK9&wor[H:m'9u]2KO`O//0qLjw<Qv28Y4?i|T|ZA=gr!H76%~RR`7/&?
NOWv$F%i'XX03e.l8^4bMt!JdZj;KZMwWa*Su%yMqdBu`I4;NX=qC>W9vH*exmRDRZ:ot+JZ=]TwpTM46o,emQJuG71a8Voy^9A
8=o14XeFnRRbJ`KMj^2we#=GcvsffGehej>urK7m;:@uh>7@c0J?DQlO4(;i|x`two!,tbpE|QeLPJPd|b8G*`E$$]S+KfDt~G(,
5aL%@|w.w_xbCDhE~R*5_UkCh47Mc_4?uK.%#!a!_>hA0nz#hyqpm/<5E/:&`X#D)rF^NRwCS/n/rz:D&r3$:CIL5<8;Il#.Gdiq
q5I(@573*SoW2.:C`m]RDrQ9P$=pLd(`[4^!fh'/DW:h[+sC:Y*.4P&R%b![Oq,AdiK&/ZqFrv5OvxH/Gh%d:R(:>oB7aJtSD%0y
k/rlQvIx4InR$:$r.0Xwg]]Zu`HvTs<_k*Q*+XsQ`Ijws4[*jsR<L;/Nw;Dk!uPee0XHPy,0lP5$1xx>&GD9TSP3Z34L6*INK)w
A/_oxnY,6rsQ5HVsQdV`3OCCWl.s!!~&y*9/T4A'0g.rOVoItr%g'[,9,.0#B`t4Mo_k3fE?QjBe<MiPJBv_DZdrg]LnaNR19;
M$~>s'yA,49zS@FW.g$()8MfPQF`X6139%q1xd8h|vLsgVbi<hrz;7,uf=%=$VWM,g$g_DeC/Yz)F0R8<#sj!~]7sB@f9TQmI^.
B*C?`xBdL]7_9wI'Zdu=C2;_j@`_/)TA@*u7FgH9Vt1OQuMx`+hzA8^7CU):g.9+e]RS|)x(oVa97sP9Unm:cGaIC^5=x$@W,V)
6+6V9/('$$W=#W,zW]vVWG7Rr9(hLs?5e[JI@PbC)EZm,:bVvOU`g*<K4@95~4PL]WW2T7m%lzJdftvgk3XHo=y!eX$7&3$#kU<
U&HnwtiH&!jPR!RXqQxrsSxpI.zZH6YyIlSdy&%s.8AwC?CiAuiSiP4/Uq=/#xc2IxCVnUpj<Lm~*Ygkax9Ro5bhC]Ncq2$WM*#U
cRGV&mP?^j8m%@+XJB~#_x%jJDnYaF^&`#K3ZUdENioJOMki.b]dUV&Q^bg;(A@n%,e5krMbUIK)$|6NW_C(Wo03#6v')vkw~!uW
0@YMfL`ERQo?!`?EtCMU7:$jv`$PNUs>+!w0m'e_op?VA^7ePTMVd^5;A]U8*fytL</3gxyo>uar3J:AwppCAvx.b?]BVO[EJvss
fXrC8As%6WiFb[sEpb>`rd:YW6ybjd&6l,7hVvtNAx:74)uB4(0qi:GixNNQ=G42%%Pks0TH6M=<|hpN.^p;1J]jd6kO~*Zr+RVt
qL0a.J>(g`O)XX)dh]!)~EPfNIW+|fu?Z#9;[h9UJ*f14cOLOpmjgFb?rK]j*[8z7DDtHa2C91&#Ixy#%V7FuhZ$goS+]ze<Rah.
X<(,3h,g@v|oCc/JZIsZ3$lEXQ,j_lY:v@@S%D*h!ql/Y(cY*|q+y99`Uf&)%5si`Lh9K+.7i9HFi71bwTDB1JZ)6![F7fjJf,04
l|74VOPsDQs>LD.^fm<lLv2W.?I]Xv!ygRU:=T]cS#x:o'C/]jShnxC|FS*Nwjemhp'6MBkTr3`:5D/u/,/=.,Yi4xx64e=v#o#e
vtwsj#?pF@HKeuKtyA#G/svxq&3i)HJ;n@GYN|+kvmZ>M$=Jh*mG+(nt6NFE[S?N0*UY;Jen]L|lB)C(DRo[fiGP(/6~kS9Mw
K$~`$`n_+@JQKfhsu]F[iCWb5I95vFsQ.9?H5Z:pNN]z5n(1rc&mx|c5R4_p[)*Gp2^@B'C'dt|Th'`G''.[Vew^r#H^6E#OQK.H
95.iz;Vv,/'[JP_f+||n)O=b=h&LbhN,m6(V'PEeQ3e|jRIfnuPN9lWpY>rP~zO[NuWGPJ[W6ico|+E*0lVqnsjA_(DBtsk1|@1
d/y*~bLEIuj1vNpP2QNL0QjE+$=@j%Rw12at8=!ZHDSTgPiCz`X=boL.R6hXXLFtM>RTVL#/>z<PSaFiRjD>?,c.BArx3*|ggi6
s/Ey@W0*!*:uFQMSMKa^Z&X>n1>UvuQ`yJS1d<f`av78c47p,gRoHLfD/a0j$hcTDM,FK~7#T8E51cmTw9sb3/BCPH,R?4#%J<#r
Ngpx>SO#~c,U3_X:!sB.plcKkuj0!$me`jq`Y8w8q`v+grCUzr)CfJsq6i?B5a47ZW>t.|XKR8JL3WK20Q5Wq5YB9TZ]I(H[|8/_
K>YFd]XJUR@]^`i@FoB`oj<ws6V#UXO1L6R$b[E%@wryz5;Avj`T)J]=#'oudRA(7kM;`,ZTr`z,D<0OQk4]Ck><Qi4w(!M*#rt|
f4(NY<I_,2GlwPI`ew'Br[jo;~jPM'~;_bZ/CBO6@?Pz6I@(9%~BZkuyr'Gi`9:LBiEkhf)?xz:F#ymH!FMXvl.vmv*d/Rb0YMX
R:zhyjtQ4,Zz^K=xoPiR)Bqeh@Qj(pTt[HbAvQdnr321o0k/HbRPpv]4]A*2'GNoWGPnl*u(VqXy^N&o]CU~vgK7wBTF$uHJM)xX
nE:tqLWHl`g'904b_$NS2[_912]C$6J1`e1i(1g`u+!s]CljU.<bya&UIBZL0JrW3_>t~L)*ftR8_YX*_#!qiQJ,<qCthXkW:J?x
u4!bC5DTZDU@ai?;s9iSvMiBf@9@*vP@brVx`|;'f&UbZ8GvqAJ1.K0Lv5Rl?<Tuw~Q]FTpGoojUeN'5k2Nb19^m/SYU,]cB.fLO
SF_MOQgG3#fNmMbDKC;ixTV]8t*r,lqh,YOdKn=70A;~Z1pdQw8G;ub3jRq2'aga!#B&XM+29j5|r*xBUl^@!HD[&!8Qsbb|c[oX
Q+BfDfH>=jyKi`|U[!1qdX,fvMr19DvIM+#Dz[Q2joxgq%PGierWY8IpsifRs6D0%I42k3phQkoZT;N&l%]#Qm:PG?($740[iC=
r|)_!XjuuW$L)+woR_[QPh4w].b3ln,NZ4Hv)>9Pa38~B:#&Is#O8[frx5DYoKMUKNP7#P6sow;*eF'kQ[B%mTF,EJ/2[s8uU>N&
Q7ybv&M!)JlqWIPd'W?.tplO6qLQt`n_KFKFUS1$5:=kT#E&'Z4P0VE~67>^6RE5_q!(E&/&DGl1y#$vlqjS7u4uXN^;pO_Z:zR|
gFlsP^!qfNK'XLHYCx9MDfK/'w/T1.a*Qy8yI&Y4<=21>^S1cXyE4r~E1$Q@`na(yM+&FEX14$BnOFNpUL&f00Mi<S9fH[IB0/p/
i;<wC.@kMwR9V@g$!82[2A@`eT'|~'@8u`6x*p(4NRkJf/kO*2>*zRHuf#HmeKJgku,uB=eh2s_<9HF6;cDj0CXb4GoCuuYTO=c
X?iX>]TLE<D[nPk~(8UmvN]$&kkjUbRyW0(7G[&z!,t.VbN=3'=ofJ&Q5$B&*P56yH/_7!5r$OE/#VNgovwT6>B]28853jio<r#h
y<OLEP|518QcFVBz2v1M7_[+I()YwIM<.GSfG_lpfFa;GOia:aUcRT1,z6>[Z7r9,aW!flM~&wKPWjE@)e3r4Ob=<GHumV'S_PpF
4OU?;cH@,|J=A<|]y<?!i`#?m4p2V_pqGGV7re|n(YaU3M6E;1J7(;^k*mvO4$G=KES~$GgDZiM~b8L6vr*i>7>D]N)r&vMA^
N;(#fvY3P[0QZv9g3Ltwm)oD%`y_6U$5D'JJ(/jWB@m$UvF;:u?+AlxpZD5[E?F%%8GU:9@dbEVrCl`;z)@M15TgjL<UAPi|
1$!==4Z]3|C|n'2!wF%ru~ox8`p7IKkt#wz95j]0ln_G~wPm851TN=7?qz@~qsZC^(_mgad^~00x1sG=]L5GL[5Z:1er+yc]::6
7&ly`<oh],Hl5s0WqA3(&p]RSH!LLL7|Sr%DQJ=c0o*rYbcjj1d$HKTQ3Sgc!nno<3,&UGE#zeV+76iu3n5[Mp]x)_^&,RF|(U/p
w4F|nO;[BB(:yna:.!oVAoiopV=A4>~U!?`L!0iAyY)w7zozo=Qpvi,A@+8k|<9/IGJPEj@ft2<,meVv7.5.$AiDn1A_SVuMtF9
U#2^:r0rp~;r<1W8/#4ko&nv!z'r%>>T#/N]M/NpnY=~X5;K5~3If#BWn$c5.m2a!#6n9(*j&*;Y%dTV3UhbKfyom>M<y39#6X^$
GZ]]Xs<Bqe7me$h^/]QzW/H4[W1k866jQ6jja!2SuqCI`M2VwGg+u.=Y^P?&?g[gIKv.cjr+|gPLHYY)_RGqjOq&uOXRmK2YgGE.
vvt,c6#0OVb7x7UBB~2@99VkI#wa+(:t4cZQ_>)1KAv09YdUme(3#m<dxx`p6E4G^j>rHhW8&4chWn//JQ]~]S$h[g;T<X%B08h
J]8x6d`L'5PIHu2fIh@|4I*bpgqS:,6^P`CHJjfuG#yc_aC,H_#POEBCM|uD;[=$>qDA,xQHdGNWyKxB>w>q@lVaP0LjX5'Te925
TF%#BW)%y_'51p>2.qVAoeXh5Ke)BKeZ1q.M9[;Q*Yku@jrawrZZe8L<C?[>BfvW:5QxP9@liAa(P%DkgL;|R*<|Xg?yY!v@c'&
K=,=,WsvJ]p?W+arrBSd`JH9l>fgla59B&H.Q>0A0~BLo.z?18t)Q^3CVlV?Q]#>3uLng'R|C2xxCb8zsMltcraYs3>>0oZ?Hwz
T`^$eYv_m#+Q#w_'|9In0]09rxBrcte=4knhWV@=Gzl/FZ,Al]LpthsbyhDq&3O[U5uuPDH#ENeup1OyABX+%!!>bAWJo>_T_c5
s*4RplYVMvWedAtT^>u>maV%.,83j>WBNBN,iwPafX:+ebol;EgqQWr7e:tN4c?|Hg(l;_EKr7Zs&9e7G_@j/|=)?%HMVP!@suR
T!e#|,]o+])r8Kw|6/(^])6lGb2UBNTT?~!Boj5+qlFCOw`(@lU=;'[!rvAQJm2k8Ag.EO!QkjvoPhg4<HCR)Jg1]&*aLUXGs$:3
MznMzP$;g#:SBed*MBd>!JsYPjtF0'ZBg,wvq1A<2g>R+/G:k(L#cvs'm:p(WNDBSmdVhpU.o,lp_$s~jD~G%7Oocu*G|kj,XHnz
R_&XixMk^;1jvv2r;8;>@_)4r~]lQYShgxTn8M85=9~#HsW5Vd,AeEwdas/#e><>Pib!x*pEW8IMJ8q,E[@,76jddjb)POc+Wl|o
muDKO(sRn!i&tyP.$wc'14ufd$4='Mz@Z5J(4EFSeZ(Ar_Pn$5LM6sAkr/?6%4)6I0Y(%WxLU9rEdT6jiaRo[CVkRB,vfQ^~d~'w
t.HG9gsDK*HE|0@)GL[x~,nY*FIM^6B`Z~qUKB3U]P6t`O$BZG$s'4<1dc)ljQ5>STtz[VE[<?N:,F#x=6[~tU!oIXsGiAJgm7Nb
SOP|Ht113ZLdo,~O^&m>T>`Ozp+v#KG]@!$x.JI@Pmhz)CP.Zlfk=WL5I8gzQmSJC]O;0U:[(olCV7ZN|O'H4=|.~/f;a1~9XG,,
N[X4N`ZmaUXpOK.v]s:f?h~RpWRPIyY+Xnn?JN*=~0QLL!=]dCq(5LfIQVa>2xgWAc=1g[F6+xAWnRGa!,>k(TXi@7fPf*]V3=(l
i4'gl>pspHI^!iK~(Z:d|C<x[n~`U0;hTOCPn3;SDx?F1:EN]$kZgC@:@oDPt;2xwRG'<&oo]#?0O_#prudXuoLo))[4u;X
z!+(^$bn@Kgk+GBsW/''xGMPO^05IC|vYU_3~%J3O?:TGPu)#r>p>)I'DI5]:76X>I|vsVH=nUU`*1K<HW3$^vq6[bvk^i5%S<N
l&X<~@A!g:XdHbv[0#*WV:YC9`^rYw1)o63ve2s`B_rj'koEmhP5t^'CEL?MzXZWRH#.XRI_ScsIyOT|qG8uO7i~?(2/3%xA$=
c?,0:;BUjP9E8k2b2&7CC)*zxQ^V9F4!Hfd~j<6$*:ki>^onM3E|1v3#11`E`d/kH62axX/1&W7m;eI.]5O8yD1r#qE:bL@0d1T[
S]>_j/1XK:VPgJi2y1eM2Jukq`.M')UeR:jc7l%+QLni?QDxIKyiv~:fy|#LeXO7=NV18mn]:g,V%_.cl*7D:ldu41`Qubx&*^J^
1fg@#Y$;G;9fmn>B~iAS!Ch]z.3x:rr.EiMe%9o?V#/|2|,+]%+mLn1Q<5S.SvyP%8VF!e$[/+A/W)Y[H]SHM8cKYu+]*K@]h.W"

end CharName
end Scad
