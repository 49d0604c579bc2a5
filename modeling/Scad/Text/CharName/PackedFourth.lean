/-!
The last quarter of the packed table of names.
-/

namespace Scad
namespace CharName

def packedFourth : String := "
9[aOn*S<?|V!SFL67+m'5Cf?j2v|LsK_h:5YHEZ4`m'b1p@Lmm5Ei:^srxBP0UC'?qJGU?*C!F*CH&6?WKLr=hP<&!>I<]V.zW&H
R0[?:S'dYfw1762Pp#Cm+:&O_.[7iU;;HE(Gz^3qY8sV+|0GdD4K][CVnI1S3wO3Z(QvO8NXZ!Tq;B<OdL2/^|(,8^pg4|M]Sr%K
Mpkv1qm8Bp]mQa[2lneK?8ZL]%5m~j8aLGdC*PsE#ee8LD4#4jHQWD?N')#pGRAig*~qG|t<I_G=ds<o*gEXDTb1V'WEP6z.g@nL
2/wp;C[w!E=HAt<??VNNSbb7,j0Um<R/'>Fwl+!1t*6Mp'r~c.5g6sV$4~Ygj,Z9MGAy)XwJ_,l]u[xnLGuW|D;;J*!yJ.h@!uF
W:Vl|7:0W_.aj`@d?y.$^owq<,8@f,DF[p4*N]ig~stu[<^~:EvyR.hc9VoZ2gHedE+k2hX%ozCVdG|j@z_yk<&BLI<.;P!!R[c:
jOQb,Bw>Jzw^n&0fJXdaky]ZiRe;G_Bl8J5cpKJ$S1H~H^VT0rX<jF$<:zx`Z)[Dt'u*B!:y3*zN5W9j0r)#9LxrFNB=L0r8CjjF
x8JoFeowOuTU|o(Mi|zbgbz&zJc^`3,(76.@R:pw$&!*ro5:c@bf#^!SZG4h/YgMneRYgfe?f(=1o6Gi8E9ctQ*nzmnAbg1ZJbw[
iJSInqBv.fu3|Iu!D~r&D6ykCRnS^|Oo&r%eX,eO~)qbLV$SzsC#.8t/#i8z&A:H28cr*E&=ry_f3CU0=f^2nG`j'ug+X|90FN^K
s*djf9]hd,$*H#~w'd@H:*cJYuD_'<q*|]jFIXrsia(,p(RJA3sQsLi!NQkSio0x<#0&>LMO;?fR9Y&5iOW%e06v;'h+!Q:;H<>A
XKOH2ofyT_HJb:p*)IZurla2lB+Yne7u>BN!'%U@r096psfsS).8N?vBf/NT$wDl4^s3=SZvYEm.J?rlms<iD*s(01uuDL#qF(MR
isH`YJ*pD);stJW(04,2%aKfh9?Rg.qIC,=M9oswfn8b=G65KJ9,kMf'Yc25[c;T~`d~mOgX,eZaEsU'k|Y$~h9)62MZJ1epu!Rt
TamT[?*rk9P!5Y%v_k8$WCN]K,=0E295HDfz9U/lZy=t(]o3gK6pcp=*3]Y,.nmT~oFDMVdwYpO'2DZ9bw>[oPfM7f#b6iVzT40
q[@Bqn!:OX`!48oP;!wE/^e9(@H`>18A<MzHDD^.5g_(z$]`f^c%Iu24rALvzC7JNh8LM`,)dsqIdU]F$5L>b>!8xD!NRh420),H
C5T,hm)p)f32Z)_h|@F~^Uha|JC2]<XL(qNpo:A/fDn~s/V`bi[Vg[=zwdrwncb$8z!:~p/M.zTc9F<CX[_M$;I_J)S'q=X@bN
Z!];3/~3B`@3MwXyp`sBefg#2vTX,/q9<,e.rS_DyKZZZ&'.YHPk6!4wt?g@9n8wnHP;[pAvkF&rcK0/)oI:&|4!qs/Bqf9(?Mmj
o;|m]hsvLgj]X>=u$UekW1sGZD9jLWa/&]V%jeavM,B#lk*'x[qn'Q6r%kAuc9?^Rz@<IFUIjIrq|7QoieqlW6ol,ar(bo6WD,Da
LMTKMdM*VO|+a:OB~q*H~nX>+Q!K8^E[h6#@@p)]tH%Sz9D31[j%3%Q[!QBlEUn1i1u3E.2u~Iq0*yKgIAvGVSZzSo(zX1sUv?th
mpSjCgCJI,P=uHE^'<r`=yiWJL4W(8_h',p|K,t;LE^e`#pfUuW:)M=/~x7?oaoihP9E#W22SVnt5Tq<tBgCzVsKsMEm>Naob<@8
slkx$d[E^7I%7J8g5b*ycevJPSAu)a&Dm]=?)2j!8JjeD$!A]D0rbM,$CIG4~:ZhtkeKz_2UKqBecd8X)ivxHTS[4$uvt~R3nKWx
y|DR7~W*kaSfbSmuE%6RlP)1/3|&wFtDE&N%;`iv5D7fYvzs10,;S#ae;l+,j2x:d2&MZIq0S*0#'uh?3]NZS=.cx|&WR_qa?E>C
m`Tvpc7#9igN(BYx.X8Q,_d(:9$V2YtE`d7yJaCnp0yJbo'4R1~'~QndPG=!:n/$_3Z;w|)qxO8&Q(o)FHzNMCx`XU7yyL9cCZ+g
z^(,|&*,PK|Uy!j~C`2PxI~60=kO2BdxQ!b,tbe,af_F[Rg#eD|FCj*nmC/&_['+$Jf|96clR2.q1s]w@=#!9dy9Kk1|N1+IY^eV
zvSU>FWP+7z+j6d'DDReFi0G;BbJR1'ho/bxCq[G#x_5c=c.0?W^0|Dg.t*TZF/aP2t;N_$wN`:|^Br]k(pw'.ICF<>5U)JorW
i`~#KvM~&TOajvD21etVDnWgg2=MK>vzhf*afD*?`('h'T?zFBF,Ev^#/rfI1XB?'!%xcna^j(qKG)][L;6S6q6PLatEH1N<'S|t
VF@lI)HDeS^_$Q#qpn9:SjPBDOqJ@Prg%?5cP1lCU3@`<~q)'iKshTjxI/[.?Ue9u]jRlu:plaTQGJzi=<py;[hjQE%ftc<r]J<'
AcKiQj4p+2)3DbHW~,5fKvb553G32bhvx/_&yx,vQ]R48,/l/C3j9rUj;ku((42=.]ZD*E,12,:#H@>c<HY#n].!Y0!!y+ErC|d
P_b[0,=qE]6.H+bCxf0P!#$9<AvE/m1U=7^6tDP>U'm6x2p00#|4Z;lsxIr+tgz%A=G0x>8%D*kcSI0a:uzfBzpKBf,ML|<'2E~T
iT0+#yX*P'(&5b&]~Ow8/IVPWY39khe!%aJ$#s|hdIYsDgFikUEyZWS''cRQf)u(AE9vyMlqJfz*Cd&;m!r_i2?~R%+90((|l;!A
35iz[x5h1>>|9Ml#TRuiE#$U=cs<g!4+fzccle*,FsPf[U'AN#WP+8@wx=fy6Bv'kqGUF<h<[8_tu[~UOW]XGj=~yojQU(BnRaAD
a_>Ktz)QoW|[Z!#'[5`mVk'OCVQ;igRRZcXT[gd5)5>1x$/SRtI(T)t&/ftv`%Fn7r;87H:dDJAo_x'$pa]8RZ;3^Y@;[,Y7A9Q<
8RO~.SO]:Rbd7XJ'I#fh2OBy9yd$sd&D3?T@|:lzC,X(Np8tK#[57wYAC|=B;Rdg&pN7kC5X7~8Pa6A8QA3bx[Spk:ATMopvja:Y
W<OI$&31y~:?%l]co/=lh,.I%d_]4|FzG0vZXl9O_H,_ZO*eQ$p3#LrIcT3'Z%~(HFgk3^!$tOt||yBYB%Gbc0_;86`[l43Xb]#s
JDkonKGDCfj4leANpXizjr6FTnq%5F^>!+wG[u/(mtG~!jVWlA`>e$?m`Y#oSCN%e?hEFmkXwat0hTKhCiP>>wNQcQRsz_#y`I;4
9*:zi=U(>2sP#5.CE[2bY!H63<&LC%r5`Q2gN3=WDaw%KMaIDP:+j_2m<*Yv,kNr9*sIPFa5tECrkO*MX]+I%tn)8ZFm%K62LBRh
Ku;<@lb4+[h<iL+y^5~4k/$)L6PU1dqLx(a`(tBoQvrpTgIsmIx*r.=_vdn3Dz<xgBptnH$OIbEEcd[&H*i'i.vYQgfs<@D,v|K7
UqEZm4:,[%kH2KGsN)96sfMf9X$zstS)FZ|$xEivux4w!`Gi=Yszn[b`fpGLcU%7x1ATV%0zbFJi~|HE@Q7zH7#T'*Ac7NFnf:S
L=*naYJN)HgImkP_G2<&S~Iuli^_@2ohw[%/$js/H8<A7:((?$Ibs|=&ZKW8a=sRwr*PcZvGblY;wm+PtxN!X!Yg!BpNzPjJPf!9
GC?ohij<Cc&y5[/=r~~l)Gd;ReVd1d7rXuIjTar0swY0sO<CM8lyVPItYU=#)&~o~3ZC[^3#v$^9l_O(=,NGeeP9kQ(xny!!DM_|
NeP]|7F[5XlN`GWQ%oomJ:N3GlVM|$25.h?.m.hZ+_&(mhG+oowzuvNLBt|Hdyd@/=wp%n*#T(EuAK_DT~f.mK:[;wEg:i#@:j>O
aguqAubLW,_C:THxT@W.*a0`g484NG>'R2(4joZKJud`IQ`4cCg*2?Wgcp$0BE2PE'+Y+&EV=IHMlRE0~xg&./7)PUm]vFj%O]<
U/89g#62hp2y_5V]&EL!Ezn6pS*L$,z<%dgfSy/F)/0<5!ZSK>31N'/fTDCc#hH5i_gnOO0>]*Nf?,zZ<w^vg[6[kMmq@UTo#m]
w,x6EXni`yCf`M&6267@d17fe#RJx@Fq;&<4m@is:3ahlI6v0]YoR>sM$N=B?7=W~)']G,wL:7S8jf|beg+Lq0P<fi1G+#<V37D>
cx'D*[NCm?]CKQ_A0<b'Ea@g5>s'ftF#Q`=wP0>f7*d>jDoz~&5=l9'>dBb70+H%i[V1O%~r'U(/v*)nc7/Zn56$;m?P<ACL0&19
4XuKvA,Bo3Sp#3WNtvXy~j8N(bra>MlDz1E'+FGp?u5my.bUem$'e6kbWB]A9xjj/5d9rWz6pxW1&@))D@+vP>kFZ>sW/:X7ftv$
B<^,5_'>=Ye'fMR<3anzucCGq&.QLF:%ttf^7[]EJSP#YLH5)ZWpRdUUA[?w'K+uqzE,0u%t=#r^DI'qKK;aPtx%L$[6+)s4[G~D
w&y*Mj002mf4Y]^@!u>o:Iq#Q~PEk#NC~^=oi!U72$!sK..St~1jhm*f15k>V&Ux;x*iLvjQOwv)(lb(ua9=V#WU<3[rv!o7kar^
e7=hN3=,MtSk|:NHKHL;fFNV^k:^UG%GBf/jWwd:T)GuPTP<wI*Z?7k|~Wd5O9b72;IvoFl`mmV'!iJEm#'!3TVNEWuesK(W;W`4
PU=krS3Ttygfp%t|Mg7Z7oo;nFE.g3Fw;F@=m8h3|_mfna[I,csNklJDmesOm,6K'w3B'p'+z;;>g)9#8sE~DWC+n/vZ5v!?:bL6
M'|r6~MAD|2iL0&AJuPq/KIw#KW*,8?F03:~:hXV5b~u9?Nf&C/'enJFOo8(&7c?l^QNKE7QRZ'tlYP|q'AC&aKBv8woj*/,)~H+
m7<:I.U@8h_Q[?L#6Nr)Yqc^rD6EZR7:xeISX)wftj2A~UGcd4/^ZiyE1&;X?`ehxZPl3AC2m8o4`<p&iHkRFLIX5veFp@,$>e5
n,`Wj,vjEc<Mh3JD`IRbY60Q,0T3/f<quHrHfhBa&FB/]!Mcbi+YE/.?w&m//h(1/z9m<aK!!4VAPcUda=T(Wy(1eP>K0av`|b^[
Z^ht7/VNAA#|'YjczPfIg1&Zi:Fg+f?E[<x2niVu9KqpeCJ@)zH7gA`twZ'L,yFO!<j**Yx<4sI4JsksMZv@g+4DKrU0b3:>m`0|
NaxGK_)`7VqQv=DdM!lrZ)^4shCD&r]'64xn_|Vx8v8BhUv?MTcXIoJUiPod<A2GKT~X7A]CZJ|D96.e|xy9rFV3QjVKk48#vZk_
1qh:0V(5j[fw`|2*muV.1eh*ieX_1i2tULcleS(HIPKRGnD<hp.^YNgtMnS#&Ev`bE5&(T=!Ia3H.ViN>ruVDvU>N/iQiN;t&d*=
EAaD73qf.#ZGs[2~S22n#%?Fu4DO2wq_70NPpN+#XiU`G(*)U0N1Jc;[fkd7?p8t|KSqqS`W4gj`YMJGRfvCumj:9li|DoD&j!mA
IbxEKH0f!6/OJ]n)K2)DUxE+eey78zMyZ'KjP|uHx:MD9^W,mM^LxPAR.sH0Wb~G^/bZFy7*N^>UM_d`*EU!((g7`T%xg]WFKfX
F^gyGQ8I$cLlqb_cvBRPx5(FseYJp&*.O_v[P77=##y(t;l+7<o/:X*lvi|PL!1F!|wnM%7HiI8q4PM5Sp9n1qa#UsufdExU7^XP
QBG,:FY&$EDwT^rd42os*bBet=7V%.cSN)BZW2^,[z7&t.OL2U!:RsWZ||l#_+(9[f`iTkr|9n_tP=O,2vb>cx1pkz];79snuI9n
22<h`RZtoC'p?To7v:`=0J>sZQZwFnRkXd@arCFa`VTt|B$x4t|e%:vJ1PDdZfs;=e3Sx4dmfh/Pj+,Z](%,6yBFRAZ:DKi[F
5/!.XpHb42ob.BE?GHNnQ*0]zC.WjOs^5&QiF$gX@G*y):1ivy3bN85XDf~6HD9_`]^=Vi6e>2gSR7cfEn7jo=FV+.4$yp4Xu?%G
N):8PNZhbD?^Vh6yZY(tMAAy,OC++eXRSvsxSQX4Qb>'ny;Ke3c%~;1js)s7_F!Bj;q+=75x;U~u(q&iT$w5i>nYeQ][3JZjPEGv
AK6KXHrBy,kG@KSMJ%E@XSw?s<$O<r~xw<#_(.A=(hRSk(Im5)rJ0>GdDGwpyHa~:TT&yLq^Ax6c&xei8ec7eJ=?GC8|f?*KK6zf
7y/=!=uHlL1kJ@PPw(^zDOmIvlVM~+]a|?C4K)zbpwC,=uKsh(I0*#]uD,|50KGC]Aj2@5XbK?r9l<1OUZM#[#]u,_YY(f?nV<0l
DxI[tjm]BQG`iQeeSMLliNrZ?`|^bb1G?L5@9hz#=Tl:y9ahXXNihJn`<7c_|@Ub%EQn9JTrWB&!c]4@ru)oR3MHmN&.y9Zd[XZj
oj1'L%ynK8bHdP2Ar*X'A(C>gDQ/m9w&zmniCR8!Su3mPe=)hu6;0trJz,:F?P~I@CM'L!W?f6I|KzaI$3m6DG$Wkk<Uv1:>2R/o
Ds;IziYrRLLk)lbBrxI^]T#Ab>Ijjryvdg~CIf?L&nQq&D<Kj|tThucdoKwmAzyD'nd^tFH*#a.~dF=tA@&od6%g].?:xGBh))!!
b<gq$H]TcRzM9M7pCV%`X1~Dd8CinabRl_L9C[e8n[d*l^[=dR+6N%tm.ca0)|MBr[%|%_Ay~(_Ty1;i@`vx%bx*%/oR,XUg/pa,
cu?1/`rn4x'^n79xv'32#wK)2L#0Y$2OO~tp_$KI4@0u77%bdcyYDPnH$8wXqoh7dqi8d_ju%68i,x=IFV>v)e2u^?=78+cKrb8
7$:6>|sL+[2[0~Ery89`xuC|V]:'Xu[_W5`Y~a^gXclSwE?aY!&)GFrK7Kw_yy^jgzC:.A/]r8b!<H^iMx;h^c1b#ZH[*I<dPSb2
c]Kvwe]w|oQmH!N_%('Q>mJLkXJ=spWJ8MkH(7/tK8>ywJ<;GgD45ALO/xl_kN5`!WU5`pHj&p'~iE@bX6xkzS|Zh)#'4B]7AHU.
0LW$EM#);:$|R(=inQBY[ZkJz00OHUb%@;mI`:C^``k^&|5#xjma?YhzVX'J2.H]=Y(d3;JkiT6AW5(.|p)vnJyOj~XczFq_^eh=
N@o:_&@;23Y3=m=Ke=ZdR6xcN@LpkdappFJZHs?buj~G1/K6||[qrs.%0bBh?qY.dvijjsy]mI,8&G8(6!(D:i|uvT'<t$=q2IKq
BrSUGcFt1%:%4~LT](|24<PtQv,>NX6zD2DS<K4#ZFB_.P+]tL9aIW#R6nWv_;GW?6,:3pz(b@g,EE;uO]u5jr9(6RD_Mx_Y%|Jn
n/[CX#5vz+VEsK+`:_qx[^|6?B8'!2v,c/'BcJ(<vq#~Ryh($.CnqsDEDA;fC#npI&gb!D,Bn5U=zw&'8*'oy)&]5gz:6G*ydx,~
0aPPcYcUf6.)FN)JKa`g<t!wjV9q+,ib(WW4,5qoiB>'2,KH|PYH2J4^h(lfY'%+KzoknowYdv0c6Kf1ph+kRk]R1//37`i9j;o:
t)n=E>!GBy(Z0rQJb6X5=%3v&'8v/wBE(kf_P0V:+D]oxEUoZzxl@c0VHYZV&/)['1[kH,~)M,O~Db;&*ww+9`IRORg(vT3X+g
o[;W0x0:]8*5zjLe%b!$*E7zQ3HKFF])z/~jUw_/Bw];>h420w]GtZE`8f8FhNb9x%L,TAODEER^$AJ'zhq%3wH:=g4el5;s;Enz
hQ;<Er`j,2/x:?Pmy89~'.iL8HzKkgpEmTSN]sOQ=yb,pu+rm+|)W>kI#g.qJxRq%,o0ylZsr=`h<t(zO]5)@y=IrV/yt04^Kz+R
P$ZbpOP|,j+mdCmn.e&CzTNRInhDEKjJvXFs7jU3:qNJ9>/HCR,yY:xd,NQnO#aygrco~z(WnM?5K2RZY*c=r5^`5oaZQ$GI|$lO
cQSn!1<Wf>5jdu2UTv`m/zL_ocLv`(h:W2~!vF~gjeRR/&g4fl@lMJDnZ^zyy`#mI.>4ffLI]r7B<Th>s*%`YS@Q$NLgPa.#<MUn
B6?rj/lQGeDt(I)`~KsO7hJyS3r>TEwaC%tR'V3`5wR[6r^`semf,^I@.;iFH&56g*HTzaHK_s4N!A7dO.'e)a+f*+n&q;lDO>#L
a%<j)e)xLH=NNnyoi1AaQXH.'h_~qa%,Ng+Ae;.,]b<=/pJG=X>h0~nB,kheX0>*Sb7vst6gIIO|XY9*_2`K3ZM35n`aPgyooe5(
G#j)&s9k7<[t0oU90Y!6cSGB+Oc;hdpg5P8<A9H88?u7jjPeNSOWL0(Fo_~uAy5aWvo_XI@A?scwxNFCMa>_[XMp?61FqUMFc$H+
O&cM.~]lU@k5owaRt:k,z'_[L^nf3U&FnS]*WG$+3Md.Os:K1_7DIZ*Giq7'G44yAMMLh&a>_+L>#IZZ#DzuHL_e.Nb0q1]~)_/G
dCO==/h_rnALk:DFkb1l:vl[FyZX&U[lS~~ldt4t)Je4|'i.3,d#j[P6^JGA$jsAFaXrQAA7W]ZMJQn`X5#nLnBd[x5=rMe2=)Hs
wriCl[a9KC_z$6Gvp8WF'W;8y=|!(FsVJxBZB2%jY)Y`<#c1YLjD&@5t_.(_qf(fLD0@z7KYW/AW=pVtk!DX+80hAy)M.oqG!jj
q(F^P_rX,_aJiJ(6x>f2GLH^X7G`rhP_()~xwy1E=/zzDT2R4ke)NS#I&0dDmIjvIoF$egkzxTiFVS[YEP.yk@+=J1T7,x0:c]6i
yADd_S=nxcM,[EeVn5$e7#pY1:$H4u.l#Q(1J%V`tL;U!Zc4CfmZa$EBc0yT5@HCsGciO8kpUxegHz7C|8=<<UTX9`QH@3`?fIsN
9b!*8y^=gmGKi7dfbjTz(*bkFGJBwl#LX:M?'c864X$T&b/<^nC9+t$mWni^SgNY.U0&bl.afGh0>fbvX.O$/@l]D^BDqelS6C>
A:GwxLr<>cH%sc?naZ+ElLxrK+x`N;!B.]K0?ug9>`iniQeW@L4[l]Pv,XN6Jsiek.((@d%K4lT,t5V[fJxYG?JSGSy4l@_8X0aR
y)l#)zGThr;n_vp.v*O;+RxcVV.%3Ci)%:l&1DbNun$[^kpMim.jeuR7@9~s$nNootzC^Pg5'J!=[Q/=`S)~V*_04u$lvC|OPG8
Y>@fBZk$R#L=5:d^bz!Y/^Jb[@e1hh!~[>(;Tgioe=z4)K'57ph9Cb/8w#r`~F67w&bH~G>j&p</i7&^du!G&kLK]%YXPS;;aBQ
Y<S9+.db:<:uZ7V.[BtGM'Wp+kUIVIbl'o.yNhLVXuK_CkI1>cdvpIDf?ssryuOgUt0zRxsx5)O+H3YFyr.@#[S2Vmhol>l)KaZE
pvL*.HC>~Vg8:f^=<8x=H;2/b#]f177/PI2@sKF2t2kUOIs=NWHC4A)rdH:i(Ix?PV=mlxb~)3CZQ'itFNf'oASJZ|Xo*4^ZkQ)?
iXftlH~KARkMld&G[iIeP0g<YC~+O/!1_n$uO2_7Ar.WxYgw7tfD8J9oRoTe]77&k``&wyPu?*Xpn,w1*i:C!0'8f4.$A6Ufpf^g
4YO)],>@W?]Gj:sn>|J>Q/jdp9~Re,jiSD8'S!H8T)DDR04xu'sHCz)@lqvghl!6g%&`rfe/s(k81?_s;o7V|r?%o>UUgGkhJJ'w
0L)#[qs_=$nam1cbt5DC~!`JN>OtOI2CfQ.zEBQ!~7FcTgDlZMy[Q,Cy!OEE+v[EXIWsQxIgZ>K~LN6*Z$uMQ2PinR.r(J~uW*XL
25*Fgg/q=;GEOI&?,__6^91pt+'d3pGGt?lK*bsfp'$!@$R?hjJOTf)PT:Nhd?rKYcPvWgHQo^1bwll=_0JQI,*:Ry1X=j_:vxS)
b*zlXaYv?FA5O8>^UP00a'6IjP'[BxBb@BkE=!%Sc.5g~P17hqw+&IJ6S+>qRTf(,#5KD8qKZcNC:Am;Kv^xPc2xzo~~hAYqgBH6
yhn9:D9wq<Cg|;ou)*^~M[Faj#hPUViQmYr420H;_p)e?YX97G7b6QFkK,h1AF3q=M(Vx+?0Exx/fU3s:Z:%,TcNDJo6Pw@d^?Qm
z*!X~e_gTdhrd/@k.>IV>?3k`5cTQXada;wRjBoMY95(cciq`y1Ry6y*0V(5:fW[z?X_ApwpcZ2l,JE8M)g]DGa$7iFbWz0Yr7Iz
q,XNnQXUf,Ecsu_?>#iC4]QV#V8P<z`HU?;OT1ip&w5OXhm4H+Z!EOu$n<;v>m+*?!1=C7h/.yr+^[|F0IU^5l,S2e9Ow$>[M.p#
c#*x^*=?)|>0U4YU2|?jG#;Mv''MGwa2WF@#_AAi;ug.@Ys7I$Ql'JYgSUFZHU35vs'^5,,etx(=n|%,[GG3vlMCL|'xxozTG2v
N%X1e1O4@or;nGX/w2#R5U1(AOi+~k!BXsB_jgM(s:xz<ejf+Z>%h)QJ|(p8C#0V%e~wTT1CYV(=oa6X+rU/k72<>0i#7S$Iv865
p/<Cj<yBbd<A#ihdc+Tu%k'kZk=N^'HD|E>1['Jt%GVA,(;S42o*JQu~+N60rRec`S5,0Dpz#5c.AjCAmDB%rR)E#yfQRD&Amk/Q
Wm3[yC7b3EmNNv?pVDglh/]yxC&Y7?~?vBwv6LbZD$~mD<Kr?778Ph1o=)>4)'$);*g4()|LY7>;/(Id1zm1k!)`7]7M<M$j2fmi
h0j+V=2,M.A^O]s;wr<H!TTVBn)9P])~L.a%;wv/K`PTHY=z#/R=5<VlvsFTN=US,x(.rATTJ9(Tx7FXBSCT6!RY@5'GN<15;(AB
Ho~w81(Dv)]IQ.q7^r]nN]7+?dCsE/M0(l2i/|`=kHuYdHI&pb=[q]um|T)m,Yp7GfYr/@+9VB;7s7].oKVx?,vJ|9omJZtWqyH[
FWZ@`lx(hjL0Q2'ar*!5zPNJbM&3w&c(P&$^p*EJzgpC<|Wlk.`nA=pKc>L`;N.At/uK.y~hwFb!CjgBb3%6w8IR!]Jn2wBZioHN
NzqVK*utpq=#`PNb+%o#LZ*+=ri#rr4T0p`Im|4.SVMhZha;dE+!y.7U$Y~B=BhZZ9U(<rNfv~Wok;pU]4C~l*o,i`ed7lbdT]
J]_[wKP9gw`0|^)|`b3of)0w]opMsa<WobAL|ND%AJWl2b:/F0QH]FlVTaY0:Hkq;FGG]h6,7<Dxe#@z<JV&5du08GvKFF@C$XR+
0A9Hxo556StP81du^ixz09khQ'N`?[b_Yk]Ddn;$=:B|~9%G'&UOAe6p[X3Ark6>')Dp)g/y#f&P3$B_~O2u<73/H>+M%,dm5bA
C!u4=v).,~TJ8Y*V!.8nRwus8JaR99ka85A+8iT[$bST%~p);$N72kAiV^cH&|>`z+/<cr5/4(@@MOzQh(XNJ:V#h:=r:9~Sn)]9
Z;WQ2vDl;p2qaRLZ4O>g5aZ3&d*TT]WiK$yy9t#RITsvz2M6eIi1199v~F].~hCu99%6um/?V<yg6Og).=m:JXWRne7oJd/$*Q6;
83efs|9.;`8XO=czZWqsgA!/oRP~[N'hzMSPzlBQ@$JVdGf$K9/^?5.WoLY>`mA_Zf5klfC;9`&vC^a+Y_Eo[GWl$gDBDs5WBB&k
Pl.oaGo]NzOMSu]IQMmQdA>H3W#CW%MTPxSz*|<N2Z)%*p#'>LOUB)HX%(|Y_U7q(MY8nt<s:|(UTMg~X|dCx8@v78)[ioS^;!Ir
F;+5xpb890PW^Wq;B_EdIlkDuaRW'6/Gy>Ly/m*rc%jK82;T!@d|^KiHE5sfHm%HIjsEK&,s$O<9msqlRa<mDDF.`H.;LP;,0pY_
NN.LCNQIX8S(9OEkumwtm9I]y,'UQ|W%=^<g3o(9YXr<m+4Sb.]LZ3:Q3f4pfsY[hC98UHQ/RwRnU[Op:C&HjVIW)7C;'(6H1%ua
mp;qaHRnl+QtERgddi[a8=5eDMDPY)?8TbbR?sb2R^C_^2;DyFmGWWBa4CyvlT/P~JDdB|2!eb)jj.H];jdJXZ)S[|%PUrp>z,=.
k~W7LTlv8kMj1,=2U_hc&u6C0IS89eYK0W!=$?Jjf2E;lub]#xFyYiUJh9Yt@`4$[zGpTUIyMbpnDgHI=&*~myarHpO:VP#QNqzl
5k7uZgdLL><+A|p2Ok<4[T/hSllA%4TI2S!L||d%CKo&OS8EI)B54@IjKlkofjiqmBb:QGdFL#rL)K@ukO3.Jrb@(V/6j+3Y_w0=
D*ry$80]Bb>E4_kz8kSE0f_Lb@ToPH8?2tjNcRo[J)VE?l(3AbA=0iE`b7_8(m_4m'aSOd_k]]w3f/.t],*#2*+HR,j]bX5V%/C2
8g]!z@4RvL=e`epW5P@?ij_Ip>v_Mu*?uHz(!Ra]yo24c^,>yA&qWFwCv_7I|kw!AVwnJwwv*mR0OFvj3j]@ELl?qYhoT^l)2&18
iU5[gK2b~&2[LiJ?b`^2EsDnyF1/Hqinlb5m>L/V3HyEDsyAx!)'C|q#B]0teITY#sThpdKI(lb|ODUC7yH%&&<m;EA,xu2|Wj5
z!]13aw^kM@E6x9[T|xAt=B:z1?r?M<mrHoxOd21HTvT%:qkAXJ(S^PJ!=:>Y1/Ae(*I9iTo8W)NHR7r~UVc>4u(Bu~BK8kEdWb
D<z>(Co$!dF`'ix*L;yelxmrKY[E@`)/.CExKAS]z~RxoAmN9p,1.@VjH1$<gR=+bWQ8(L,FQWxa`cwy~bEMs1C&*[Ee51'%?lz
I?$xJ7Ypdq5)|rJ%z`jW4u|6j,5bN^6|L1.SMAK_<TvlCP6~,rjmu$IDbMZ#.%gq~ukhgMcb$7?bpU(`$zK9aFRCi@YGan0%RGRR
42*]7<Fsm0Yb?7Bs/&rpu:/A%q;[fW+HIS59c)L]pN]/aui;KL3[bck)u`WEe#SRf,PCD&V=N:`t21*<m$kN&$M110B[e]GZp4I
j)im<*WpJ|gZs/%tU`h6(TE1Rf5%+tn_X[cWp]:@f!(/@;FN1.*,vc5pUrR=k`]>)b3R?jC:]1cXzHt[ZQW^_z(V3+jIiqw3Xs
y|+sXkEsa5LeDH1w&@o)*UNP?s'*VibHUK(+GhB][AL^4vpd9[xWGjvSH+F9m/9puTm<,K.CuD/j?$F>DjV`v!U<Fzomvc_%,yO
d$42HR;z?W!zZ24y;:_7e;aQEY&Qy_n/HQ(0U@grA9i'PM$:F4?osg#?RMAz'@]@+E':iP,ZvPc?)(aC3iq#nik1R&i244HEw`,7
Jsyy|*SBENxy80FY/=gOm#IysK[H6')0:a>6Ywj(*O$w;,M[GPL1hb<M.T._ZZe!DA'%]RY3Ax5.S@i,'~AB><zXF/eTj^(<(kAJ
SVdLW>Gb5p|:fM!qV.V?_a,@*?]j6Y+l:z!JQBlm%S8<sv?mXf66B$mZ0w?!brBCDwQv,]W]w#/Vk=PPG_GRn0B'b$LBX3(1d.i=
n^c|#kQ~:%U@4`nO58>o.`]I:&GwDCZxjC@8;?&nwMjuSz1Ju]2$>y?`mhV+qI<*.Q^!7x`iy,)w0?lLj!z[:?]~FW>fvJcj9JBS
lY2.$ms4i2|M#?_sCnFg<65lB2Gvk5u|li@KzYxQ<p#E*@+,L#zDgYn@chgr_NF$Tr;`nx6/zZLn<f?@[p/kl>rE<3EhB0eBWPA$
Q52rH]gN.?dhXLQW+cAs4Iz~%v;KwZ:`+RHV?84o96G/I<j8)+5><Hb2I/8gzge1CGN1$h5W4D>)mdptl@lcq:+,Yh0XRU;hhX6O
WBjTLl5uhMOtbd~J6ttST<''xO+/xL:f3t_FbJF~Y]v*DcVhMcl_FMiz!q<QxPiz%p/C_Pt(JSof$v1_>$>%*[%YzjEM/XU'H']
A_?^9e6mkd+jE>yI^!GgCu[M$k[WKh(7%:[a@]YZB,+5y:T>lXC56?[rtmcqNX^[@<=_`d/E[:=G%iqw<j~ac0]R/|*MT*u[Oz<.
6rjFJI?c7r2yi4rd4U0:FOKhOjadcEXo'?O%DE~#;V<MuUMPcxyNSb[%l[N%XYWS'DCOS~ZyCB%0$_&d5S1IxRa;bC8gK<l5(Wl?
nOB_3o5$0`0nkH~dHcSo&qToUI9o'CL+hSfAaF/4B+<<6G_;JI%4A4|d>D=grYm[$.DdS&;XY5GQ5kx4!jA+i^gzdJOmGFAhqf%Y
9~IW1zCO/hE>m46=B,V??ryZ<T9,|J6Z6/XS_B>2^xO%G@Cf9Hn0%f<vLYuCCkbNij;..7weRTi.:vx!nMre7L!Pcze4_BUAIct/
hZ@46;I5?Gmb1[CH@luE@l|kET).eNf0^/?pu2;wl+ugl'|`B*QMQ_2:bkuJo8l.JB`5'7n8GNniA:|/h.iP5E,%an4UT50AWLV
9|2v&6S@A^=/6ekd5m2DQMwW<lR7?lEzhYmNSMg0dKFQ8~bj_,irdH(&E+T),$UB=iG6ivE5'U?o3'E$M'Pt9_Ip/xS&dY*)rG/n
J.@4_M%k|8&qLr;5DWj]Ut/jfELdxj~~h@c]~2.~/3D':scPzc1x2hL:2?%*#CKa&RaouW@>?'YFZ'fAywIvMv$x_(s(%VG.X,O
w;e?MEVey_A+_+?oi%,JWqu#H@?f(eIf%VGoMavn1M2A|6Iu>UMRzt8q)[2l8]l07Vn|Bn$%Kfy)_pXi#L[dA$!93?Y(3U6<>)3
K#wDtH`SWPY/|Fb..:4c^c`Bm'SaGQqI7C_6|p9.sex!ZqZrj:>k+By[%=0ka[vV!&nwFbyQm[E~6$v?SZw4k,fhv,l[*H`uXxbk
Rc;*j?r&dB=QBci![9b`uSiS|@aD&uz<s%>[/dg!r'>L*X@LqJ_$?#n7ElDwDygag!$BWBk;y>W,eeYGI~y2&Pn2:ZUXtf>5%M1F
d:M`(([,#&?S?`pOV#T@gueurR6WF!eZ.ls23b4&k6^&4|jHw=^i$7*1ts/DsN,vdLw_Q;ngR@8%NoJbYgH$VVh~&!MxYzZ[
1@?>>f5,kr|@/LJ~f<CfGv$~MD8PQn='WQ(+[<(1p(#S6kA!_|dgxKpPY+Yv%t5~jX+1?nK2cEj9J5YYYl)U6~tn[GXaoKPLBf[[
K,xyBHh)d|1SAqYwi~x&a3&x2q>jE1#Q+/Usb~@1A8Ghe$%,|@3RB]Q0]>)Y5mDP$Y?a|PuyaC'Ni58&Z&c4Vl&8@N1i#N&joV#C
O[LrRSmdC3*ReFA:zhV?]mPB&D'uUIT#N..pO,SXWo,<ubrwWK_gaqJ<=<Bc'ek]M&3M+e:gur,m!d.?dDwjV~qL%0[6X(8xp3k*
0i0|B6<|!+X'r$`z[rvI,:*WlCvy(fLZ4!JX2o7s^%U']O9tjJIn[!B|bUP@NY7qxX|q3AxO>Nccg~wgMStMMNIRYf5``Q8dQup)
jU'^I@3mv~<NgG8k=l_SIpi#L!Qan5.L07ZZWlE&`?MOe~`.]>+qB]Q`pOsq(,90~z34<WSvPQHeyqBCC6gU3t&MG'8O>3ckaGTg
ksht:O,~a#?AWCe/*>X_?K`.5N~,/7Tk7Imc4IUg&<DX;B%0dqJ4oTHKx7!*]TpKE$67a~chl0/1G]]d8j5[l_Wr<^o&u:8%uSn?
iv#$zKUa|lL#AE@,+9'Y8F/3E~@wS&~)uM1~rQn*3FC`KJF><F9e$T!sgcuNrk]>ARiN*>l3Bv@L*YsB:2g0XcMFa]tLn;cCsfLR
xb1Nz10$59^;d<M]wQ5~w!A,G4?oV902/]pAu2?u&'t12~zrX;uwfbb=sL%x$hEg*>KY@.Im(yST5Vd=?HwU5Hb7I$;P7_v>(hA
t,e[IaRYn91[K(OvRB+sEuEN4Vbd!Icx>M[AdGwFaEJ4`#'#YjMefF&XIDXX7yQ:KtFPaDZ4!Ib,Ux<~cuz1[dD/M,.d$Ag|OkN<
1+qK095Z_B6k>mON.cUh|p$Z/>'2DWb!z0A3u^lUnqvn3K:=Z/q0szHR*N`kuB%%b*q_/IDXrVCfp*~'C/edfi]j&>@IPkK/kvQQ
kGk.8T5KBG%DloQ8P]zI@KyE*^[R0_ddCV`U|Jn1>22h7h,tNl7TfU3md*vm)o7vl9u22sa2y>4P`HyO1d7EUvbhlFgcX!_Up.:*
SfG6QIIW`aZ0TI(iONz(V7WlDvB!a#AvMl6.fterwXF7qAI)zR<(^vJt?(HE;|w@X|@)Vx5ulf=&/X&;d*g=TXUB^s'Gm05Gau*D
DbJEqcFD8q~fy!Cc9QkG^i4oJ05f=rFE1>|,@~gD'nhb89uEf~J1PzgN$cxj^BWMzfFcK@8I_Hv[GFL<Z@VzNn8O_$I,Ps`69.C[
ga[:/!~2GWw,9iRqgJ;`T)jOTa6uF5xfYMa(A90cHAr/A+,_rJx6IeM56:]hM;u@Z*_I>:H!j3;jFq3wPGtd+PaNtBbP>([.juS)
xJX3@5G`74xysc_8.jgZnmei8'J>U].g+AFZ2hme$v&`%W3kmBrlv>|uFe46k?0b9IiHJ8M^h?UEtZ]uzYHXMDYMD9+=wA]d*gj~
MK#2bU~QE/;%O7`Ftv*Bryn?zOgz3x~FaGW0ug/ZW|)^CzVXmS7'ENu!*|k0L!(;<ju>dEuV9n9fxHHVCAcz]M~RM@1.9(Dts)GP
h@+(h13rj875wHb2Gw'YgO:OnAc<!v7&zd/d6O<i#DDqE,ZvE10AEbaf>Y#aIKXv4Sm+)K/`2Rr@J0::4%=6i?T:MG5VG%MybqmH
Z]r18zYHB$j5O=wR&,#XazjNtqAbc?5+^2vr|/5*^+x]?RwY|:1G`2iZRwCs?%`_A]1P+LsN`1+mg4&&qvDPm%?4M_&>VYT)zO
N>'WJbj0pZCr1l.@v'LsfSNdB^.LuYd=kZ|dy7LHoMAeBICtucKXkc)xq?fo|0LAFNGwctEJ%[yCrOZl)@g&,QmdYkD:n&`i!:MN
oTy'C6]C$~Nf&wz.bFhk]q5Yin2BSe)gBQ=6yfh<pi`7n'%4U_6^(`g@5SxAvGRjXY7oa2xj;!.vqdS!qeF5wSL*0MVx^*G?.is_
6pXhRh<Ms2%vDep'[IF%BB4]Rx[0q(3k.vw=T+|rQGyzn@(#4H)zZLd!4:!?a3O!lf(rPYLH0LU!Gx3c[BXgm'QJM<2^Cxnc|M%o
h'Cp(pD;tY[*`;aVTrF/=oA%Zq'B?.DN^8<OltU]A>B0DA$E.LpF~1jd6#%f0nbxR;1fUv?vG/r;;m1(hK#Vc5QQ#5)0u3.WH/6?
g@/``@3_WMZg;bI1;XS$Du1in@sHdzWgVk(oAg(DY+;>eO<ekB<>B'*#@b'hM[&WBgWjoKdTZ6UW*VlI+<qw^3lkoQVUWzk_G+<(
M&w=u4)4OyjR;'kFdt)+7KFM8vBK`7byar:F/BLsB0Dv%X%))g#DfRy.xB|&Dx+9Se.l*JMO/5+sz4F1hLW+lHeVN';f|3nuljZ@
eYdH*>#(G&pz4$CyWHr,41B4J'mqBOGT$kUO%VuWU+M'sIoY;X`L4qQ;vq_7BbYi4mvBL%mvaJy3](L`Ex!^Z&q+TRd:w=*Izodm
q$j|o^y#7v=>KPmVKxjXv>ai;:d1TPl&uUXWI[)dKjAYL?fDvD],n1rz.&:R6Ah$itOuhdQx)&2&G6%B8j#i4D^y,c_dqo(p&rh
E_Qf@5_9X%_n_8bZKMzue3&eZ[rmUO]K]p/r5L%X:?cxuAX<CD.H0omVdATjt|5a+tx<)A2~YEnQu@ce>1<z9FbA$1Px3?,F~)y(
S_4we`Zaj`=Re3DxzFYyXFL.;NJu9^m8OliG~q_jO'rLjBYRyDep~;a2960ZFQ8u4XuEr8f%]ZFZ|iLD3CVw7/'(liVcra5riQh7
AQ;f8D0=[hYl^qP&sk5QeK*A.<PZ:pTK/!h72lX9'Xvb$wJ0psov~GB/6E([3QIPR|<xxpYl&(#r;op!2oW30';,d+>tuwf
F`%*'~l@d|RB#x@hfgN,CuR=[423k8]vUTGiEKUDcp0oatHh./'HtO%dHa^MM^c;UKt_5cemmw,/pwegNBp9TB',,1LxN(2Dw4ve
2@dbd;?h]z?y)QIaH*wZ$u|qZo3A/g>?')>;SkcQ,WFpF|3R7dn&MpUC~'nj|+O+BfNQ*~aJ6ciKf;Q(Nv:li2a(|zz*+(O8T_y
6|~,2h5JIP0?%PqN'byc9p]ghppme1KgjyLzt+Fiw;HCO&SO;3W>**FaUqs:$nB<@)(/Y,r2dJBc?r&3Yle_^z=_KsL63;+yp+
g__#A))k4vxPU:y@lx/[;XEK1P!)"

end CharName
end Scad
